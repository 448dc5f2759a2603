import SoakRig.Proofs.Injector.Cycle

/-!
# Calls one after another

What an injector answers to a list of calls. Of so many calls of an endpoint with a cycle, every
attempt number is served its share, and the counter is left where the number of the calls brings it.
-/

namespace SoakRig

namespace Endpoint

/-- The next call comes to an attempt number if it is the turn of that number. -/
lemma share_succ {a k n : Nat} (pos : 0 < a) (le : a ≤ k) :
    (n + 1 + k - a) / k = (n + k - a) / k + (decide (n % k + 1 = a)).toNat := by
  have turn : k ∣ n + k - a + 1 ↔ n % k + 1 = a := by
    have below : n % k < k := Nat.mod_lt n (by omega)
    have whole : n + k - a + 1 = k * (n / k) + (n % k + 1 + (k - a)) := by
      have := Nat.div_add_mod n k
      omega
    rw [whole, Nat.dvd_add_right (Nat.dvd_mul_right k _)]
    constructor
    · intro divides
      have := Nat.eq_of_dvd_of_lt_two_mul (by omega) divides (by omega)
      omega
    · intro due
      rw [due, Nat.add_sub_cancel' le]
  have shift : n + 1 + k - a = n + k - a + 1 := by omega
  rw [shift, Nat.succ_div]
  by_cases due : n % k + 1 = a <;> simp [turn, due]

end Endpoint

namespace Injector

variable {c c' : Counters} {e : Endpoint} {earlier : Endpoint → Nat}
  {calls : List (Endpoint × Request)}

/-- Serves calls one after another. -/
def serve (c : Counters) : List (Endpoint × Request) → List (Endpoint × Served) × Counters
  | [] => ([], c)
  | (e, r) :: calls =>
    let (answer, after) := handle c e r
    let (answers, last) := serve after calls
    ((e, answer) :: answers, last)

/-- The first call is answered, and the others go on from there. -/
lemma serve_cons (c : Counters) (x : Endpoint × Request) (calls : List (Endpoint × Request)) :
    serve c (x :: calls) = ((x.1, (handle c x.1 x.2).1) :: (serve (handle c x.1 x.2).2 calls).1,
      (serve (handle c x.1 x.2).2 calls).2) :=
  rfl

/-- More calls go on from where the first ones led. -/
lemma serve_append (c : Counters) (calls more : List (Endpoint × Request)) :
    serve c (calls ++ more) =
      ((serve c calls).1 ++ (serve (serve c calls).2 more).1, (serve (serve c calls).2 more).2) := by
  induction calls generalizing c with
  | nil => rfl
  | cons x calls ih =>
    rw [List.cons_append, serve_cons, serve_cons, ih]
    rfl

/-- Every call is answered. -/
lemma length_serve (c : Counters) (calls : List (Endpoint × Request)) :
    (serve c calls).1.length = calls.length := by
  induction calls generalizing c with
  | nil => rfl
  | cons x calls ih => exact congrArg (· + 1) (ih _)

/-- A call behind others is answered by the counters that they lead to. -/
lemma getElem?_serve (c : Counters) (before later : List (Endpoint × Request)) (e : Endpoint)
    (r : Request) :
    (serve c (before ++ (e, r) :: later)).1[before.length]? =
      some (e, (handle (serve c before).2 e r).1) := by
  rw [serve_append, List.getElem?_append_right (length_serve c before).le, length_serve,
    Nat.sub_self]
  rfl

/-- So many of some calls are calls of an endpoint. -/
def callsOf (e : Endpoint) (calls : List (Endpoint × Request)) : Nat := calls.countP (·.1 = e)

@[simp] lemma callsOf_cons (x : Endpoint × Request) :
    callsOf e (x :: calls) = (decide (x.1 = e)).toNat + callsOf e calls := by
  unfold callsOf
  rw [List.countP_cons]
  cases decide (x.1 = e) <;> simp [Nat.add_comm]

/-- The counters stand where so many calls of each endpoint bring them. -/
def Stands (c : Counters) (calls : Endpoint → Nat) : Prop :=
  ∀ e : Endpoint, (c.count e).toNat = e.phase (calls e)

/-- Fresh counters stand by no calls. -/
lemma stands_zero : Stands .zero fun _ => 0 := by
  intro e
  rw [Counters.count_zero, Endpoint.phase_zero]
  rfl

/-- Counters that stand by the calls so far stand by the next one, too. -/
lemma Stands.handle (stands : Stands c earlier) (e : Endpoint) (r : Request) :
    Stands (handle c e r).2 fun e' => earlier e' + (decide (e = e')).toNat := by
  intro e'
  by_cases called : e = e'
  · subst called
    simpa using (handle_follows r (stands e)).2
  · rw [count_handle_other r (Ne.symm called)]
    simpa [called] using stands e'

/-- The counters stand by the number of the calls of each endpoint. -/
lemma Stands.serve (stands : Stands c earlier) (calls : List (Endpoint × Request)) :
    Stands (serve c calls).2 fun e => earlier e + callsOf e calls := by
  induction calls generalizing c earlier with
  | nil => exact stands
  | cons x calls ih =>
    intro e
    have later := ih (stands.handle x.1 x.2) e
    dsimp only at later ⊢
    rw [serve_cons, callsOf_cons, ← Nat.add_assoc, later]

/-- Fresh counters are left where the number of the calls of each endpoint brings them. -/
lemma toNat_count_serve (calls : List (Endpoint × Request)) (e : Endpoint) :
    ((serve .zero calls).2.count e).toNat = e.phase (callsOf e calls) := by
  have stands := stands_zero.serve calls e
  dsimp only at stands
  rw [stands, Nat.zero_add]

/-- Where the counters stand tells the counters. -/
lemma eq_of_count (same : ∀ e, c.count e = c'.count e) : c = c' := by
  obtain ⟨time, ticker, placeOrder⟩ := c
  obtain ⟨time', ticker', placeOrder'⟩ := c'
  obtain rfl : time = time' := same .time
  obtain rfl : ticker = ticker' := same .ticker
  obtain rfl : placeOrder = placeOrder' := same .placeOrder
  rfl

/-- The answer is one of an endpoint to an attempt of the number. -/
def attempted (e : Endpoint) (a : Nat) (x : Endpoint × Served) : Bool :=
  x.1 = e ∧ x.2.attempt.map UInt32.toNat = some a

/-- The answer is one of an endpoint after which it starts over. -/
def restarted (e : Endpoint) (x : Endpoint × Served) : Bool := x.1 = e ∧ x.2.response.resets

/-- One call is answered to an attempt of the number if it is the turn of that number. -/
lemma attempted_handle {k a : Nat} (cycle : e.cycle? = some k) (pos : 0 < a) (le : a ≤ k)
    (stands : Stands c earlier) (e' : Endpoint) (r : Request) :
    (earlier e + (decide (e' = e)).toNat + k - a) / k =
      (earlier e + k - a) / k + (attempted e a (e', (handle c e' r).1)).toNat := by
  by_cases called : e' = e
  · subst called
    have told := (handle_follows r (stands e')).1.attempt
    rw [cycle, Option.map_some] at told
    have turn : attempted e' a (e', (handle c e' r).1) = decide (earlier e' % k + 1 = a) := by
      simp [attempted, told]
    rw [turn, decide_eq_true rfl, Bool.toNat_true]
    exact Endpoint.share_succ pos le
  · simp [called, attempted]

/-- Every attempt number gets its share of the calls of an endpoint with a cycle. -/
lemma countP_attempted {k a : Nat} (cycle : e.cycle? = some k) (pos : 0 < a) (le : a ≤ k)
    (stands : Stands c earlier) :
    (earlier e + callsOf e calls + k - a) / k =
      (earlier e + k - a) / k + (serve c calls).1.countP (attempted e a) := by
  induction calls generalizing c earlier with
  | nil => rfl
  | cons x calls ih =>
    obtain ⟨e', r⟩ := x
    have first := attempted_handle cycle pos le stands e' r
    have later := ih (stands.handle e' r)
    rw [serve_cons, callsOf_cons, List.countP_cons, ← Nat.add_assoc, later, first]
    cases attempted e a (e', (handle c e' r).1) <;> simp; omega

/-- An answer is followed by a new start exactly if the attempt completes the cycle. -/
lemma restarted_handle {k : Nat} (cycle : e.cycle? = some k)
    (stands : Stands c earlier) (e' : Endpoint) (r : Request) :
    restarted e (e', (handle c e' r).1) = attempted e k (e', (handle c e' r).1) := by
  by_cases called : e' = e
  · subst called
    obtain ⟨told, resets, -⟩ := (handle_follows r (stands e')).1
    have pos := (Endpoint.cycle_bounds cycle).1
    have below := Nat.mod_lt (earlier e') pos
    have last : (handle c e' r).1.response.resets = true ↔ earlier e' % k + 1 = k := by
      rw [resets, cycle]
      simp only [Option.some.injEq, exists_eq_left', (succ_mod_cycle (earlier e') k pos).1]
      omega
    rw [cycle, Option.map_some] at told
    simp [restarted, attempted, told, last]
  · simp [restarted, attempted, called]

/-- An endpoint with a cycle starts over as often as attempts complete the cycle. -/
lemma countP_restarted {k : Nat} (cycle : e.cycle? = some k)
    (stands : Stands c earlier) :
    (serve c calls).1.countP (restarted e) = (serve c calls).1.countP (attempted e k) := by
  induction calls generalizing c earlier with
  | nil => rfl
  | cons x calls ih =>
    obtain ⟨e', r⟩ := x
    rw [serve_cons, List.countP_cons, List.countP_cons, ih (stands.handle e' r),
      restarted_handle cycle stands]

/-- With fresh counters it makes no difference to the counters in which order calls are made. -/
lemma serve_perm {calls' : List (Endpoint × Request)} (perm : calls.Perm calls') :
    (serve .zero calls).2 = (serve .zero calls').2 := by
  refine eq_of_count fun e => UInt32.toNat_inj.1 ?_
  rw [toNat_count_serve, toNat_count_serve, callsOf, callsOf, perm.countP_eq]

/-- How the calls of an endpoint with a cycle were answered, and where its counter is left. -/
structure Shared (e : Endpoint) (k total : Nat) (answers : List (Endpoint × Served))
    (last : Counters) : Prop where
  /-- Every attempt number is served its share of the calls. -/
  attempts : ∀ a, 0 < a → a ≤ k → answers.countP (attempted e a) = (total + k - a) / k
  /-- As many cycles are completed as the calls make up. -/
  restarts : answers.countP (restarted e) = total / k
  /-- The counter is left at what is over. -/
  counter : (last.count e).toNat = total % k
  /-- Nothing is over if the calls make up whole cycles. -/
  whole : ∀ n, total = n * k → answers.countP (restarted e) = n ∧ last.count e = 0

/-- With fresh counters the shares are those of the number of the calls. -/
lemma shared_serve {k : Nat} (cycle : e.cycle? = some k) (calls : List (Endpoint × Request)) :
    Shared e k (callsOf e calls) (serve .zero calls).1 (serve .zero calls).2 := by
  have pos := (Endpoint.cycle_bounds cycle).1
  have attempts : ∀ a, 0 < a → a ≤ k →
      (serve .zero calls).1.countP (attempted e a) = (callsOf e calls + k - a) / k := by
    intro a apos le
    have share : (0 + callsOf e calls + k - a) / k = (0 + k - a) / k + _ :=
      countP_attempted cycle apos le stands_zero
    rw [Nat.zero_add, Nat.div_eq_of_lt (by omega : 0 + k - a < k), Nat.zero_add] at share
    exact share.symm
  have restarts : (serve .zero calls).1.countP (restarted e) = callsOf e calls / k := by
    rw [countP_restarted cycle stands_zero, attempts k pos le_rfl, Nat.add_sub_cancel]
  have counter : ((serve .zero calls).2.count e).toNat = callsOf e calls % k := by
    rw [toNat_count_serve, Endpoint.phase_of_cycle cycle]
  refine ⟨attempts, restarts, counter, fun n total => ⟨?_, ?_⟩⟩
  · rw [restarts, total, Nat.mul_div_cancel n pos]
  · rw [total, Nat.mul_mod_left] at counter
    exact UInt32.toNat_inj.1 counter

end Injector

end SoakRig
