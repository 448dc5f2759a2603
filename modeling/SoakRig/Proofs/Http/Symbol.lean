import SoakRig.Proofs.Http.Form
import SoakRig.Proofs.Http.Refinement

/-!
# The symbol of a quote

The symbol that a query is about, however it is encoded and whatever else is asked, is the symbol
that the answer names, and nothing else of the answer goes by it. `About` says which symbol this is;
a query that names the symbol twice is about none, and is refused before anything is counted.
-/

namespace SoakRig

/-! ## Named fields -/

namespace Json

mutual

/-- The values of the fields with the name, at any depth. -/
def valuesOf (name : String) : Json → List Json
  | .array items => itemValuesOf name items
  | .object fields => fieldValuesOf name fields
  | .null | .bool _ | .integer _ | .number _ | .string _ => []

def itemValuesOf (name : String) : List Json → List Json
  | [] => []
  | item :: items => item.valuesOf name ++ itemValuesOf name items

def fieldValuesOf (name : String) : List (String × Json) → List Json
  | [] => []
  | (field, value) :: fields =>
    (if field = name then [value] else value.valuesOf name) ++ fieldValuesOf name fields

end

mutual

/-- The value with this text in all the fields with the name. -/
def withText (name text : String) : Json → Json
  | .array items => .array (itemsWithText name text items)
  | .object fields => .object (fieldsWithText name text fields)
  | .null => .null
  | .bool b => .bool b
  | .integer n => .integer n
  | .number x => .number x
  | .string s => .string s

def itemsWithText (name text : String) : List Json → List Json
  | [] => []
  | item :: items => item.withText name text :: itemsWithText name text items

def fieldsWithText (name text : String) : List (String × Json) → List (String × Json)
  | [] => []
  | (field, value) :: fields =>
    (field, if field = name then .string text else value.withText name text) ::
      fieldsWithText name text fields

end

end Json

namespace Http

variable {e : Endpoint} {c : Counters} {call : Call} {query symbol : String}

/-! ## What a query is about -/

/-- One of the parameters gives the symbol, and no other names one. -/
def NamesOnly (query symbol : String) : Prop :=
  ∃ before p after, Form.Joins query (before ++ p :: after) ∧ Form.Gives "symbol" symbol p ∧
    ∀ q ∈ before ++ after, ¬Form.Names "symbol" q

/-- No parameter names a symbol. -/
def NamesNone (query : String) : Prop :=
  ∃ params, Form.Joins query params ∧ ∀ p ∈ params, ¬Form.Names "symbol" p

/-- More than one parameter names a symbol. -/
def NamesTwice (query : String) : Prop :=
  ∃ before p middle q after, Form.Joins query (before ++ p :: middle ++ q :: after) ∧
    Form.Names "symbol" p ∧ Form.Names "symbol" q

/-- The symbol that a query is about. -/
inductive About (query : String) : String → Prop where
  | named {symbol : String} (filled : symbol ≠ "") : NamesOnly query symbol → About query symbol
  | empty : NamesOnly query "" → About query "BTCUSDT"
  | absent : NamesNone query → About query "BTCUSDT"

lemma isWord_symbol : Form.IsWord "symbol" where
  filled := by decide
  basic := Text.isBasic_of_all (by decide)
  plain := by decide +kernel

/-- What a query is about is read from it. -/
lemma About.single (about : About query symbol) :
    ∃ asked, Form.single "symbol" (Form.pairs query) = .ok asked ∧
      ∀ r : Request, (r.withSymbol asked).symbolName = symbol := by
  cases about with
  | named filled names =>
    obtain ⟨before, p, after, joins, gives, others⟩ := names
    refine ⟨some symbol, isWord_symbol.single_one joins gives others, fun r => ?_⟩
    have kept : (some symbol).filter (· ≠ "") = some symbol := by simp [Option.filter, filled]
    rw [Request.withSymbol, Request.symbolName, kept, Option.getD_some]
  | empty names =>
    obtain ⟨before, p, after, joins, gives, others⟩ := names
    exact ⟨some "", isWord_symbol.single_one joins gives others, fun r => rfl⟩
  | absent names =>
    obtain ⟨params, joins, others⟩ := names
    exact ⟨none, isWord_symbol.single_none joins others, fun r => rfl⟩

/-- A query that names the symbol twice cannot be read. -/
lemma NamesTwice.single (twice : NamesTwice query) :
    Form.single "symbol" (Form.pairs query) = .error () := by
  obtain ⟨before, p, middle, q, after, joins, first, second⟩ := twice
  exact isWord_symbol.single_two joins first second

/-! ## Asking an endpoint -/

/-- The price and the rules are what is asked for a symbol. -/
lemma eq_of_takesSymbol (takes : Route.takesSymbol e) : e = .ticker ∨ e = .exchangeInfo := by
  cases e with
  | ticker => exact .inl rfl
  | exchangeInfo => exact .inr rfl
  | time => cases takes
  | account => cases takes
  | placeOrder => cases takes

/-- The text of the query of a call, which is empty if there is none. -/
def Call.queryText (call : Call) : String := call.uri.query.getD ""

/-- The call reads what the endpoint has. -/
structure Call.Gets (call : Call) (e : Endpoint) : Prop where
  method : call.method = "GET"
  path : call.uri.path = e.path

/-- A call asks its endpoint for the symbol that its query is about. -/
lemma requestOf_about (takes : Route.takesSymbol e) (about : About call.queryText symbol) :
    ∃ r, requestOf e call = .ok r ∧ r.symbolName = symbol := by
  obtain ⟨asked, single, named⟩ := about.single
  refine ⟨Request.withSymbol ⟨call.now, none⟩ asked, ?_, named _⟩
  rw [Call.queryText] at single
  rw [requestOf, if_pos takes, single]

lemma requestOf_twice (takes : Route.takesSymbol e) (twice : NamesTwice call.queryText) :
    requestOf e call = .error () := by
  have single := twice.single
  rw [Call.queryText] at single
  rw [requestOf, if_pos takes, single]

/-- A call for what an endpoint has is dispatched to it. -/
lemma handle_gets (takes : Route.takesSymbol e) (gets : call.Gets e) (server : Server)
    (c : Counters) : handle server c call = dispatch server c (.endpoint e) call := by
  have fits : (Route.endpoint e).methods.contains "GET" = true := by
    obtain rfl | rfl := eq_of_takesSymbol takes <;> rfl
  unfold handle route
  rw [gets.path, ofPath?_path, gets.method]
  simp only [if_pos fits]
  rfl

/-- A query that names the symbol twice is refused before anything is counted. -/
lemma handle_twice (takes : Route.takesSymbol e) (gets : call.Gets e)
    (twice : NamesTwice call.queryText) (server : Server) (c : Counters) :
    handle server c call = (badQuery, c, []) := by
  rw [handle_gets takes gets, dispatch, requestOf_twice takes twice]

/-! ## Quotes -/

/-- The next attempt of the endpoint does not complete a cycle. -/
def Quotes (c : Counters) (e : Endpoint) : Prop :=
  ∀ k, e.cycle? = some k → (c.count e).toNat + 1 < k

/-- The next attempt completes a cycle if it would also do so without a last number. -/
lemma completes_next {k : Nat} (small : k < UInt32.size) (n : UInt32) :
    Policy.completes k (Counters.next n) = decide (k ≤ n.toNat + 1) := by
  unfold Policy.completes
  rw [UInt32.size] at small
  by_cases fits : n.toNat + 1 < 2 ^ 32
  · rw [Counters.toNat_next fits]
  · have below := n.toNat_lt
    have top : n = 0xFFFFFFFF := by
      apply UInt32.toNat_inj.1
      change n.toNat = 2 ^ 32 - 1
      omega
    have stays : Counters.next n = n := if_pos top
    rw [stays]
    exact decide_eq_decide.2 ⟨fun _ => by omega, fun _ => by omega⟩

/-- What is answered to the next attempt before a cycle is completed is answered to the first. -/
lemma response_of_quotes (takes : Route.takesSymbol e) (quotes : Quotes c e) (r : Request) :
    (Injector.handle c e r).1.response = Policy.evaluate e 1 r := by
  obtain rfl | rfl := eq_of_takesSymbol takes
  · have early : Policy.completes 4 (Counters.next c.ticker) = false := by
      rw [completes_next (by decide)]
      exact decide_eq_false (Nat.not_le.2 (quotes 4 rfl))
    change Policy.ticker (Counters.next c.ticker) r = Policy.ticker 1 r
    rw [Policy.ticker, early]
    rfl
  · rfl

lemma status_quote (takes : Route.takesSymbol e) (r : Request) :
    (Policy.evaluate e 1 r).status = 200 := by
  obtain rfl | rfl := eq_of_takesSymbol takes <;> rfl

/-- Quotes are served before a cycle is completed, and only then. -/
lemma quotes_iff (takes : Route.takesSymbol e) (r : Request) :
    Quotes c e ↔ (Injector.handle c e r).1.response.status = 200 := by
  constructor
  · intro quotes
    rw [response_of_quotes takes quotes, status_quote takes]
  · intro served k cycle
    obtain rfl | rfl := eq_of_takesSymbol takes
    · cases cycle
      by_contra late
      have last : Policy.completes 4 (Counters.next c.ticker) = true := by
        rw [completes_next (by decide)]
        exact decide_eq_true (Nat.not_lt.1 late)
      change (Policy.ticker (Counters.next c.ticker) r).status = 200 at served
      rw [Policy.ticker, last] at served
      cases served
    · cases cycle

/-- A quote names the symbol of the request, and no other. -/
lemma valuesOf_quote (takes : Route.takesSymbol e) (r : Request) :
    (Policy.evaluate e 1 r).body.valuesOf "symbol" = [.string r.symbolName] := by
  obtain rfl | rfl := eq_of_takesSymbol takes <;> rfl

/-- Two answers to a first attempt differ by the symbol. -/
lemma withText_quote (e : Endpoint) (r r' : Request) :
    (Policy.evaluate e 1 r).body =
      (Policy.evaluate e 1 r').body.withText "symbol" r.symbolName := by
  cases e <;> rfl

/-- A call that asks for a symbol is answered with its quote, unless it completes a cycle. -/
lemma handle_quotes (takes : Route.takesSymbol e) (gets : call.Gets e)
    (about : About call.queryText symbol) (quotes : Quotes c e) (server : Server) :
    ∃ r, (handle server c call).1 = .ofJson 200 (Policy.evaluate e 1 r).body ∧
      r.symbolName = symbol := by
  obtain ⟨r, asks, named⟩ := requestOf_about takes about
  refine ⟨r, ?_, named⟩
  have served := (quotes_iff takes r).1 quotes
  rw [handle_gets takes gets, dispatch, asks, ← served, ← response_of_quotes takes quotes]

/--
Whatever symbol a query is about, the quote names this symbol, and is the quote that any other call
gets but for the symbol. A query that names the symbol twice is refused, and nothing is counted.
-/
theorem handle_about (takes : Route.takesSymbol e) (gets : call.Gets e) (server : Server)
    (c : Counters) :
    (∀ symbol, About call.queryText symbol → Quotes c e →
      ∃ body, (handle server c call).1 = .ofJson 200 body ∧
        body.valuesOf "symbol" = [.string symbol] ∧
        ∀ server' c' call' symbol', call'.Gets e → About call'.queryText symbol' → Quotes c' e →
          ∃ body', (handle server' c' call').1 = .ofJson 200 body' ∧
            body = body'.withText "symbol" symbol) ∧
      (NamesTwice call.queryText → handle server c call = (badQuery, c, [])) := by
  refine ⟨fun symbol about quotes => ?_, fun twice => handle_twice takes gets twice server c⟩
  obtain ⟨r, answer, rfl⟩ := handle_quotes takes gets about quotes server
  refine ⟨_, answer, valuesOf_quote takes r, ?_⟩
  intro server' c' call' symbol' gets' about' quotes'
  obtain ⟨r', answer', -⟩ := handle_quotes takes gets' about' quotes' server'
  exact ⟨_, answer', withText_quote e r r'⟩

/-- A call for the price of a symbol with marks, a blank and other letters, among parameters whose
names only look alike. -/
def markedCall : Call :=
  ⟨"GET", ⟨"/api/v3/ticker/price",
    some "symbols=1&symbol=%C3%A9+%2B%26%3D%25%E2%98%83&%73ymbo%6&SYMBOL"⟩, 7⟩

/-- A call for the rules of the exchange that names the symbol twice. -/
def twiceCall : Call := ⟨"GET", ⟨"/api/v3/exchangeInfo", some "symbol=A&limit=5&%73ymbol"⟩, 7⟩

lemma about_markedCall : About markedCall.queryText "é +&=%☃" := by
  let p := Text.utf8 "symbol=%C3%A9+%2B%26%3D%25%E2%98%83".toList
  let before := [Text.utf8 "symbols=1".toList]
  let after := [Text.utf8 "%73ymbo%6".toList, Text.utf8 "SYMBOL".toList]
  have joins : Form.Joins markedCall.queryText (before ++ p :: after) :=
    ⟨by decide +kernel, by decide +kernel⟩
  have value : (p.dropWhile (· ≠ 0x3D)).tail = Form.encode (Text.utf8 "é +&=%☃".toList) := by
    decide +kernel
  have others : ∀ q ∈ before ++ after, (Form.pair q).1 ≠ "symbol" := by decide +kernel
  refine .named (by decide) ⟨before, p, after, joins, ⟨?_, ?_⟩, fun q mem names => ?_⟩
  · exact (isWord_symbol.pair_fst_iff p).1 (by decide +kernel)
  · rw [value]
    exact Form.encodes_encode _
  · exact others q mem ((isWord_symbol.pair_fst_iff q).2 names)

lemma twice_twiceCall : NamesTwice twiceCall.queryText := by
  let p := Text.utf8 "symbol=A".toList
  let q := Text.utf8 "%73ymbol".toList
  refine ⟨[], p, [Text.utf8 "limit=5".toList], q, [], ?_, ?_, ?_⟩
  · exact ⟨by decide +kernel, by decide +kernel⟩
  · exact (isWord_symbol.pair_fst_iff p).1 (by decide +kernel)
  · exact (isWord_symbol.pair_fst_iff q).1 (by decide +kernel)

/-- Marks are read as they were before they were encoded, and two symbols are refused. -/
theorem handle_about_marked :
    (∃ body, (handle ⟨"0.1.0", 1, 0⟩ .zero markedCall).1 = .ofJson 200 body ∧
      body.valuesOf "symbol" = [.string "é +&=%☃"]) ∧
    handle ⟨"0.1.0", 1, 0⟩ .zero twiceCall = (badQuery, .zero, []) := by
  have price : markedCall.Gets .ticker := ⟨rfl, rfl⟩
  have rules : twiceCall.Gets .exchangeInfo := ⟨rfl, rfl⟩
  have quotes : Quotes .zero .ticker := by
    rintro k ⟨⟩
    decide
  obtain ⟨quoted, -⟩ := handle_about rfl price ⟨"0.1.0", 1, 0⟩ .zero
  obtain ⟨body, answer, named, -⟩ := quoted _ about_markedCall quotes
  obtain ⟨-, refused⟩ := handle_about rfl rules ⟨"0.1.0", 1, 0⟩ .zero
  exact ⟨⟨body, answer, named⟩, refused twice_twiceCall⟩

end Http

end SoakRig
