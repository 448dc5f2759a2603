import SoakRig.Http.Router
import SoakRig.Proofs.Injector.Serving

/-!
# The router refines the injector

Which calls of the server reach an endpoint is told by method, path and query. The answers to these
calls are those that the injector gives to them one after another, and the counters are moved by
these calls alone, whatever else is asked of the server in between.
-/

namespace SoakRig.Http

variable {call : Call} {e : Endpoint} {c : Counters}

/-- The method asks to read. -/
def Call.reads (call : Call) : Bool := call.method = "GET" || call.method = "HEAD"

/-- The symbol that the query names, if it names one that is not empty, and if it can be read. -/
def Call.symbol? (call : Call) : Option (Option String) :=
  match Form.single "symbol" (Form.pairs (call.uri.query.getD "")) with
  | .ok symbol => some (symbol.filter (· ≠ ""))
  | .error () => none

/-- The endpoint that a call reaches, if it reaches one, and what it asks for. -/
def Call.dispatched? (call : Call) : Option (Endpoint × Request) :=
  if call.reads ∧ call.uri.path = "/api/v3/time" then some (.time, ⟨call.now, none⟩)
  else if call.reads ∧ call.uri.path = "/api/v3/account" then some (.account, ⟨call.now, none⟩)
  else if call.reads ∧ call.uri.path = "/api/v3/ticker/price" then
    call.symbol?.map fun symbol => (.ticker, ⟨call.now, symbol⟩)
  else if call.reads ∧ call.uri.path = "/api/v3/exchangeInfo" then
    call.symbol?.map fun symbol => (.exchangeInfo, ⟨call.now, symbol⟩)
  else if call.method = "POST" ∧ call.uri.path = "/api/v3/order" then
    some (.placeOrder, ⟨call.now, none⟩)
  else none

/-- The paths that lead somewhere. -/
def knownPaths : List String :=
  ["/api/v3/time", "/api/v3/exchangeInfo", "/api/v3/ticker/price", "/api/v3/account",
    "/api/v3/order", "/health"]

/-- The path of an endpoint leads to the endpoint. -/
lemma ofPath?_path (e : Endpoint) : Route.ofPath? e.path = some (.endpoint e) := by
  cases e <;> decide

/-- The path of an endpoint is known. -/
lemma path_mem_knownPaths (e : Endpoint) : e.path ∈ knownPaths := by
  cases e <;> decide

/-- Other paths lead nowhere. -/
lemma ofPath?_unknown {path : String} (unknown : path ∉ knownPaths) :
    Route.ofPath? path = none := by
  have no_endpoint : Endpoint.all.find? (·.path = path) = none := by
    rw [List.find?_eq_none]
    intro e _ at_path
    rw [← of_decide_eq_true at_path] at unknown
    exact unknown (path_mem_knownPaths e)
  have not_health : path ≠ Route.healthPath := by
    rintro rfl
    exact unknown (by decide)
  unfold Route.ofPath?
  rw [no_endpoint]
  exact if_neg not_health

/-- A path is that of an endpoint, or that of the health of the server, or not known. -/
lemma path_cases (path : String) :
    (∃ e : Endpoint, path = e.path) ∨ path = "/health" ∨ path ∉ knownPaths := by
  by_cases known : path ∈ knownPaths
  · simp only [knownPaths, List.mem_cons, List.not_mem_nil, or_false] at known
    obtain rfl | rfl | rfl | rfl | rfl | rfl := known
    · exact .inl ⟨.time, rfl⟩
    · exact .inl ⟨.exchangeInfo, rfl⟩
    · exact .inl ⟨.ticker, rfl⟩
    · exact .inl ⟨.account, rfl⟩
    · exact .inl ⟨.placeOrder, rfl⟩
    · exact .inr (.inl rfl)
  · exact .inr (.inr known)

/-- What a call asks of an endpoint: the time, and the symbol where it matters. -/
lemma toOption_requestOf (e : Endpoint) (call : Call) :
    (requestOf e call).toOption =
      if Route.takesSymbol e then call.symbol?.map fun symbol => ⟨call.now, symbol⟩
      else some ⟨call.now, none⟩ := by
  unfold requestOf Call.symbol?
  split
  · cases Form.single "symbol" (Form.pairs (call.uri.query.getD "")) <;> rfl
  · rfl

/-- A call to the path of an endpoint reaches it if the method fits and the query can be read. -/
lemma dispatched?_endpoint (at_path : call.uri.path = e.path) :
    call.dispatched? =
      if (Route.endpoint e).methods.contains call.method then
        (requestOf e call).toOption.map fun r => (e, r)
      else none := by
  rw [toOption_requestOf]
  unfold Call.dispatched?
  rw [at_path]
  -- the paths are told apart by their texts
  cases e <;>
    simp [Endpoint.path, Route.methods, Route.takesSymbol, Call.reads, Function.comp_def]

/-- A call to any other path reaches no endpoint. -/
lemma dispatched?_other (other : ∀ e : Endpoint, call.uri.path ≠ e.path) :
    call.dispatched? = none := by
  have at_time := other .time
  have at_account := other .account
  have at_ticker := other .ticker
  have at_info := other .exchangeInfo
  have at_order := other .placeOrder
  simp only [Endpoint.path] at at_time at_account at_ticker at_info at_order
  simp [Call.dispatched?, at_time, at_account, at_ticker, at_info, at_order]

/-! ## One call -/

/-- An answer as the call gets it: without its body if the head alone is asked for. -/
def Call.told (call : Call) (answer : Answer) : Answer :=
  if call.method = "HEAD" then answer.withoutBody else answer

/-- A call that reaches an endpoint is answered and counted by the injector. -/
lemma handle_dispatched {r : Request} (server : Server) (c : Counters)
    (reached : call.dispatched? = some (e, r)) :
    (handle server c call).1 = call.told (.ofJson (Injector.handle c e r).1.response.status
        (Injector.handle c e r).1.response.body) ∧
      (handle server c call).2.1 = (Injector.handle c e r).2 := by
  obtain ⟨e', at_path⟩ : ∃ e' : Endpoint, call.uri.path = e'.path := by
    by_contra other
    rw [dispatched?_other fun e' at_path => other ⟨e', at_path⟩] at reached
    cases reached
  rw [dispatched?_endpoint at_path] at reached
  split_ifs at reached with fits
  obtain ⟨r', asked, same⟩ := Option.map_eq_some_iff.1 reached
  cases same
  have read : requestOf e call = .ok r := by
    cases h : requestOf e call with
    | error => rw [h] at asked; cases asked
    | ok r' => rw [h] at asked; cases asked; rfl
  unfold handle route Call.told
  rw [at_path, ofPath?_path]
  simp only [if_pos fits, dispatch, read]
  exact ⟨trivial, trivial⟩

/-- The path of the health leads to the health. -/
lemma ofPath?_health : Route.ofPath? "/health" = some .health := by decide

/-- A call that reaches no endpoint is not counted. -/
lemma handle_other (server : Server) (c : Counters) (other : call.dispatched? = none) :
    (handle server c call).2.1 = c := by
  unfold handle route
  dsimp only
  obtain ⟨e, at_path⟩ | at_path | unknown := path_cases call.uri.path
  · rw [at_path, ofPath?_path]
    simp only
    split_ifs with fits
    · -- the method fits, so it is the query that cannot be read
      rw [dispatched?_endpoint at_path, if_pos fits] at other
      have unread := Option.map_eq_none_iff.1 other
      unfold dispatch
      cases asked : requestOf e call with
      | error => simp only [asked]
      | ok r =>
        rw [asked] at unread
        cases unread
    · rfl
  · rw [at_path, ofPath?_health]
    simp only
    split_ifs <;> rfl
  · rw [ofPath?_unknown unknown]

/-- Whoever asks for the health is told the counters. -/
lemma handle_health (server : Server) (c : Counters) (reads : call.method = "GET")
    (at_path : call.uri.path = "/health") : (handle server c call).1 = health server c := by
  unfold handle route
  rw [at_path, ofPath?_health, reads]
  rfl

/-- A call to a path that is not known is told so, unless it asks for no text. -/
lemma handle_unknown (server : Server) (c : Counters) (unknown : call.uri.path ∉ knownPaths) :
    (handle server c call).1 = call.told (unknownPath call.uri.path) := by
  unfold handle route
  rw [ofPath?_unknown unknown]
  rfl

/-! ## Calls in order -/

/--
How a call is answered, and where the counters are after it, if `all` are the calls that reach an
endpoint, and `before` are those of them that come before this one.
-/
structure Refines (all before : List (Endpoint × Request)) (call : Call) (answer : Answer)
    (after : Counters) : Prop where
  /-- A call that reaches an endpoint gets the answer that the injector gives in its place. -/
  served : ∀ e r, call.dispatched? = some (e, r) →
    ∃ s, (Injector.serve .zero all).1[before.length]? = some (e, s) ∧
      answer.status = s.response.status ∧
      (call.method ≠ "HEAD" → answer.body = .json s.response.body)
  /-- Such a call is counted. -/
  counted : ∀ e r, call.dispatched? = some (e, r) →
    after = (Injector.serve .zero (before ++ [(e, r)])).2
  /-- Any other call leaves the counters where they were. -/
  unchanged : call.dispatched? = none → after = (Injector.serve .zero before).2
  /-- The health shows the counters. -/
  health : call.method = "GET" → call.uri.path = "/health" →
    ∃ fields, answer.body = .json (.object fields) ∧
      fields.lookup "attempts" = some (.object ((Injector.serve .zero before).2.snapshot.map
        fun (name, n) => (name, .integer n.toNat)))
  /-- A path that is not known is answered with its text. -/
  unknown : call.uri.path ∉ knownPaths → call.method ≠ "HEAD" →
    answer.status = 404 ∧ answer.body = .json (.object [
      ("code", .integer (-1100)),
      ("msg", .string ("Unknown endpoint: " ++ call.uri.path))])

/-- The calls that reach their endpoints. -/
def dispatched (calls : List Call) : List (Endpoint × Request) := calls.filterMap Call.dispatched?

/-- The counters after a call are those of the calls that reached their endpoints. -/
lemma counters_handle (server : Server) (before : List (Endpoint × Request)) (call : Call) :
    (handle server (Injector.serve .zero before).2 call).2.1 =
      (Injector.serve .zero (before ++ call.dispatched?.toList)).2 := by
  cases reached : call.dispatched? with
  | none => rw [handle_other server _ reached, Option.toList_none, List.append_nil]
  | some x =>
    rw [(handle_dispatched server _ reached).2, Option.toList_some, Injector.serve_append]
    rfl

/-- One call behind others refines the injector. -/
lemma refines_handle (server : Server) (before later : List (Endpoint × Request)) (call : Call) :
    Refines (before ++ call.dispatched?.toList ++ later) before call
      (handle server (Injector.serve .zero before).2 call).1
      (handle server (Injector.serve .zero before).2 call).2.1 where
  served e r reached := by
    obtain ⟨answered, -⟩ := handle_dispatched server (Injector.serve .zero before).2 reached
    rw [reached, answered, Option.toList_some, List.append_assoc]
    refine ⟨_, Injector.getElem?_serve .zero before later e r, ?_, fun asked => ?_⟩
    · unfold Call.told
      split <;> rfl
    · rw [Call.told, if_neg asked]
      rfl
  counted e r reached := by rw [counters_handle, reached, Option.toList_some]
  unchanged other := handle_other server _ other
  health reads at_path := by
    rw [handle_health server _ reads at_path]
    exact ⟨_, rfl, rfl⟩
  unknown unknown asked := by
    rw [handle_unknown server _ unknown, Call.told, if_neg asked]
    exact ⟨rfl, rfl⟩

/-- The first call is answered, and the others go on from there. -/
lemma handleAll_cons (server : Server) (c : Counters) (call : Call) (calls : List Call) :
    handleAll server c (call :: calls) =
      (((handle server c call).1, (handle server c call).2.1) ::
        (handleAll server (handle server c call).2.1 calls).1,
        (handleAll server (handle server c call).2.1 calls).2) :=
  rfl

/-- The first call goes before the others if it reaches an endpoint. -/
lemma dispatched_cons (call : Call) (calls : List Call) :
    dispatched (call :: calls) = call.dispatched?.toList ++ dispatched calls := by
  unfold dispatched
  rw [List.filterMap_cons]
  cases call.dispatched? <;> rfl

/-- Behind calls that reached their endpoints every call refines the injector. -/
lemma refines_handleAll (server : Server) (done : List (Endpoint × Request)) (calls : List Call) :
    (handleAll server (Injector.serve .zero done).2 calls).1.length = calls.length ∧
      (handleAll server (Injector.serve .zero done).2 calls).2 =
        (Injector.serve .zero (done ++ dispatched calls)).2 ∧
      ∀ i call answer after, calls[i]? = some call →
        (handleAll server (Injector.serve .zero done).2 calls).1[i]? = some (answer, after) →
        Refines (done ++ dispatched calls) (done ++ dispatched (calls.take i)) call answer
          after := by
  induction calls generalizing done with
  | nil => exact ⟨rfl, by simp [handleAll, dispatched], nofun⟩
  | cons call calls ih =>
    obtain ⟨length, last, later⟩ := ih (done ++ call.dispatched?.toList)
    rw [handleAll_cons, counters_handle, dispatched_cons, ← List.append_assoc]
    refine ⟨congrArg (· + 1) length, last, fun i call' answer after at_i answered => ?_⟩
    cases i with
    | zero =>
      cases at_i
      cases answered
      rw [List.take_zero, ← counters_handle server]
      simpa [dispatched] using refines_handle server done (dispatched calls) call
    | succ i =>
      rw [List.take_succ_cons, dispatched_cons, ← List.append_assoc]
      exact later i call' answer after at_i answered

/--
The router refines the injector. Whatever calls a server gets, those that reach an endpoint are
answered and counted by the injector in their order, with fresh counters at first, as if there were
no others. The health tells where these calls have brought the counters, and a path that is not known
is answered with its name.
-/
theorem handleAll_refines (server : Server) (calls : List Call) :
    (handleAll server .zero calls).1.length = calls.length ∧
      (handleAll server .zero calls).2 = (Injector.serve .zero (dispatched calls)).2 ∧
      ∀ i call answer after, calls[i]? = some call →
        (handleAll server .zero calls).1[i]? = some (answer, after) →
        Refines (dispatched calls) (dispatched (calls.take i)) call answer after :=
  refines_handleAll server [] calls

/-- Calls of a price, with others in between. -/
def mixedCalls : List Call :=
  let price := "/api/v3/ticker/price"
  [⟨"GET", ⟨price, none⟩, 0⟩, ⟨"HEAD", ⟨price, some "symbol=ETHUSDT"⟩, 1⟩,
    ⟨"DELETE", ⟨price, none⟩, 2⟩, ⟨"GET", ⟨price, some "symbol=A&symbol=B"⟩, 3⟩,
    ⟨"GET", ⟨price, none⟩, 4⟩, ⟨"GET", ⟨"/health", none⟩, 5⟩, ⟨"GET", ⟨price, none⟩, 6⟩]

/-- Three prices were asked for before the last one, which is refused, and the next cycle begins. -/
theorem handleAll_refines_mixed :
    ∃ answer after, (handleAll ⟨"0.1.0", 1, 0⟩ .zero mixedCalls).1[6]? = some (answer, after) ∧
      answer.status = 429 ∧ after = .zero := by
  obtain ⟨length, -, refines⟩ := handleAll_refines ⟨"0.1.0", 1, 0⟩ mixedCalls
  obtain ⟨⟨answer, after⟩, answered⟩ :
      ∃ x, (handleAll ⟨"0.1.0", 1, 0⟩ .zero mixedCalls).1[6]? = some x :=
    ⟨_, List.getElem?_eq_getElem (by rw [length]; decide)⟩
  have refined := refines 6 _ answer after rfl answered
  have reached : dispatched mixedCalls = [(.ticker, ⟨0, none⟩), (.ticker, ⟨1, some "ETHUSDT"⟩),
      (.ticker, ⟨4, none⟩), (.ticker, ⟨6, none⟩)] := by
    decide +kernel
  have before : dispatched (mixedCalls.take 6) = (dispatched mixedCalls).take 3 := by
    rw [reached]
    decide +kernel
  have last : Call.dispatched? ⟨"GET", ⟨"/api/v3/ticker/price", none⟩, 6⟩ =
      some (.ticker, ⟨6, none⟩) := by
    decide +kernel
  obtain ⟨s, at_s, status, -⟩ := refined.served _ _ last
  have counted := refined.counted _ _ last
  rw [before, reached] at at_s counted
  cases at_s
  exact ⟨answer, after, answered, status, counted⟩

end SoakRig.Http
