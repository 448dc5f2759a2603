import Mathlib.Data.Nat.ModEq
import SoakRig.Injector.Fleet

/-!
# Cycles of the attempt counters

Every endpoint with a cycle answers by the number of its calls alone, whoever of the injectors that
share the counters is called and whatever is done in between. `Fleet.Tracks` is the invariant: every
counter stands at the number of the calls of its group, modulo the cycle of its endpoint.
-/

namespace SoakRig

namespace Endpoint

/-- Where the counter of an endpoint stands after so many calls. -/
def phase (e : Endpoint) (calls : Nat) : Nat := (e.cycle?.map (calls % ·)).getD 0

/-- The status of an answer within a cycle. -/
def usualStatus : Endpoint → UInt16
  | time => 503
  | placeOrder => 418
  | ticker | exchangeInfo | account => 200

/-- The status of the answer that completes a cycle. -/
def lastStatus : Endpoint → UInt16
  | ticker => 429
  | time | placeOrder | exchangeInfo | account => 200

/-- A cycle is not empty, and short of the numbers that fit. -/
lemma cycle_bounds {e : Endpoint} {c : Nat} (h : e.cycle? = some c) : 0 < c ∧ c < 2 ^ 32 := by
  cases e <;> cases h <;> decide

lemma phase_of_cycle {e : Endpoint} {c : Nat} (h : e.cycle? = some c) (calls : Nat) :
    e.phase calls = calls % c := by
  rw [phase, h]
  rfl

lemma phase_of_none {e : Endpoint} (h : e.cycle? = none) (calls : Nat) : e.phase calls = 0 := by
  rw [phase, h]
  rfl

/-- Before the first call every counter is at zero. -/
@[simp] lemma phase_zero (e : Endpoint) : e.phase 0 = 0 := by
  cases e <;> rfl

end Endpoint

namespace Counters

variable {c : Counters} {e : Endpoint} {n : UInt32}

/-- The endpoints with a counter are those with a cycle. -/
lemma count?_eq : c.count? e = e.cycle?.map fun _ => c.count e := by
  cases e <;> rfl

@[simp] lemma count_zero : zero.count e = 0 := by
  cases e <;> rfl

/-- A counter that is set is read back. -/
lemma count_set {k : Nat} (h : e.cycle? = some k) : (c.set e n).count e = n := by
  cases e <;> first | rfl | cases h

/-- The other counters stay as they are. -/
lemma count_set_other {e' : Endpoint} (h : e' ≠ e) : (c.set e n).count e' = c.count e' := by
  cases e <;> cases e' <;> first | rfl | exact absurd rfl h

/-- The next number follows, as long as it fits. -/
lemma toNat_next (h : n.toNat + 1 < 2 ^ 32) : (next n).toNat = n.toNat + 1 := by
  unfold next
  split
  next top =>
    subst top
    exact absurd h (by decide)
  next => rw [UInt32.toNat_add, UInt32.toNat_one, Nat.mod_eq_of_lt h]

end Counters

namespace Policy

/-- The answer of an endpoint with a cycle goes by whether the attempt completes the cycle. -/
lemma evaluate_of_cycle {e : Endpoint} {c : Nat} (h : e.cycle? = some c) (attempt : UInt32)
    (r : Request) :
    (evaluate e attempt r).resets = completes c attempt ∧
      (evaluate e attempt r).status =
        if completes c attempt then e.lastStatus else e.usualStatus := by
  cases e with
  | time =>
    cases h
    rw [evaluate, time]
    split <;> exact ⟨by simp [*], rfl⟩
  | ticker =>
    cases h
    rw [evaluate, ticker]
    split <;> exact ⟨by simp [*], rfl⟩
  | placeOrder =>
    cases h
    rw [evaluate, placeOrder]
    split <;> exact ⟨by simp [*], rfl⟩
  | exchangeInfo => cases h
  | account => cases h

/-- The answer of an endpoint without a cycle is always the same success. -/
lemma evaluate_of_none {e : Endpoint} (h : e.cycle? = none) (attempt : UInt32) (r : Request) :
    (evaluate e attempt r).resets = false ∧ (evaluate e attempt r).status = e.usualStatus := by
  cases e <;> first | exact ⟨rfl, rfl⟩ | cases h

end Policy

/-- What a call of an endpoint is answered after so many earlier calls. -/
structure Served.Follows (s : Served) (e : Endpoint) (earlier : Nat) : Prop where
  attempt : s.attempt.map UInt32.toNat = e.cycle?.map (earlier % · + 1)
  resets : s.response.resets = true ↔ ∃ c, e.cycle? = some c ∧ c ∣ earlier + 1
  status : s.response.status = if s.response.resets then e.lastStatus else e.usualStatus

/-- The step from one number to the next within a cycle. -/
lemma succ_mod_cycle (k c : Nat) (pos : 0 < c) :
    (c ∣ k + 1 ↔ c ≤ k % c + 1) ∧ (k + 1) % c = if c ≤ k % c + 1 then 0 else k % c + 1 := by
  have below : k % c < c := Nat.mod_lt k pos
  have sum : (k + 1) % c = (k % c + 1) % c := (Nat.mod_add_mod k c 1).symm
  rw [Nat.dvd_iff_mod_eq_zero, sum]
  by_cases last : c ≤ k % c + 1
  · have full : k % c + 1 = c := by omega
    rw [full, Nat.mod_self, if_pos le_rfl]
    exact ⟨⟨fun _ => le_rfl, fun _ => rfl⟩, rfl⟩
  · rw [if_neg last, Nat.mod_eq_of_lt (by omega)]
    exact ⟨⟨nofun, fun h => absurd h last⟩, rfl⟩

namespace Injector

variable {c : Counters} {e : Endpoint} {earlier : Nat}

/-- A call is answered by the number of the earlier ones, and counted, whatever it asks for. -/
lemma handle_follows (r : Request) (stands : (c.count e).toNat = e.phase earlier) :
    (handle c e r).1.Follows e earlier ∧
      ((handle c e r).2.count e).toNat = e.phase (earlier + 1) := by
  rw [handle, Counters.count?_eq]
  cases h : e.cycle? with
  | none =>
    obtain ⟨resets, status⟩ := Policy.evaluate_of_none h 1 r
    rw [Endpoint.phase_of_none h] at stands
    refine ⟨⟨by rw [h]; rfl, ?_, ?_⟩, ?_⟩
    · simp [resets, h]
    · simp [resets, status]
    · rw [Endpoint.phase_of_none h]
      exact stands
  | some k =>
    obtain ⟨pos, small⟩ := Endpoint.cycle_bounds h
    obtain ⟨divides, next⟩ := succ_mod_cycle earlier k pos
    rw [Endpoint.phase_of_cycle h] at stands
    have below : earlier % k < k := Nat.mod_lt earlier pos
    -- the counter is below its cycle, so it never comes near the last number that fits
    have number : (Counters.next (c.count e)).toNat = earlier % k + 1 := by
      rw [Counters.toNat_next (by omega), stands]
    obtain ⟨resets, status⟩ := Policy.evaluate_of_cycle h (Counters.next (c.count e)) r
    have last : Policy.completes k (Counters.next (c.count e)) = decide (k ≤ earlier % k + 1) := by
      rw [Policy.completes, number]
    simp only [Option.map_some]
    refine ⟨⟨?_, ?_, ?_⟩, ?_⟩
    · rw [h, Option.map_some, Option.map_some, number]
    · rw [resets, last, decide_eq_true_iff, ← divides, h]
      exact ⟨fun d => ⟨k, rfl, d⟩, fun ⟨_, e, d⟩ => Option.some.inj e ▸ d⟩
    · rw [status, resets]
    · rw [Counters.count_set h, Endpoint.phase_of_cycle h, next, resets, last]
      by_cases full : k ≤ earlier % k + 1
      · simp [full]
      · simp [full, number]

/-- A call leaves the counters of the other endpoints alone. -/
lemma count_handle_other {e' : Endpoint} (r : Request) (other : e' ≠ e) :
    (handle c e r).2.count e' = c.count e' := by
  unfold handle
  split
  · rfl
  · exact Counters.count_set_other other

end Injector

namespace Fleet

variable {f f' : Fleet} {members more : List Nat} {earlier : Nat → Endpoint → Nat} {s : Step}

/-- The member that a step names. -/
def Step.member? : Step → Option Nat
  | .fresh => none
  | .share member => some member
  | .count member _ => some member
  | .snapshot member => some member
  | .handle member _ _ => some member

/-- The step adds a member. -/
def Step.joins : Step → Bool
  | .fresh | .share _ => true
  | .count _ _ | .snapshot _ | .handle _ _ _ => false

/-- The step calls an endpoint by a member of a group. -/
def Step.calls (members : List Nat) (group : Nat) (e : Endpoint) : Step → Bool
  | .handle member e' _ => members[member]? = some group ∧ e' = e
  | .fresh | .share _ | .count _ _ | .snapshot _ => false

/-- Every step names only members that have joined before it. -/
def Named : Nat → List Step → Prop
  | _, [] => True
  | joined, s :: steps =>
    (∀ member ∈ s.member?, member < joined) ∧ Named (joined + s.joins.toNat) steps

/--
What the reply to a step says after so many injectors have joined, and after so many earlier calls by
each group. A fresh injector is the first one of its group, and one that shares is in the group of the
other one.
-/
def Reply.Follows (members : List Nat) (joined : Nat) (earlier : Nat → Endpoint → Nat) :
    Step → Reply → Prop
  | .fresh, .joined n =>
    n = joined ∧ ∃ g, members[n]? = some g ∧ ∀ m < n, members[m]? ≠ some g
  | .share member, .joined n =>
    n = joined ∧ ∃ g, members[member]? = some g ∧ members[n]? = some g
  | .count member e, .count n =>
    ∃ g, members[member]? = some g ∧ n.toNat = e.phase (earlier g e)
  | .snapshot member, .snapshot c =>
    ∃ g, members[member]? = some g ∧ c.snapshot =
      (Endpoint.all.filter Endpoint.scripted).map fun e => (e.name, .ofNat (e.phase (earlier g e)))
  | .handle member e _, .served e' answer after =>
    e' = e ∧ ∃ g, members[member]? = some g ∧ answer.Follows e (earlier g e) ∧
      (after.count e).toNat = e.phase (earlier g e + 1) ∧
      ∀ other, other ≠ e → (after.count other).toNat = other.phase (earlier g other)
  | _, _ => False

/-- Every group stands where its calls brought it, and a group that nobody opened has no calls. -/
structure Tracks (f : Fleet) (earlier : Nat → Endpoint → Nat) : Prop where
  opened : ∀ g ∈ f.members, g < f.counters.length
  stands : ∀ (g : Nat) (c : Counters), f.counters[g]? = some c →
    ∀ e : Endpoint, (c.count e).toNat = e.phase (earlier g e)
  unopened : ∀ g, f.counters.length ≤ g → ∀ e, earlier g e = 0

/-- A member that joined keeps its number and its group. -/
lemma getElem?_grown {member g : Nat} (grown : members <+: more)
    (h : members[member]? = some g) : more[member]? = some g := by
  obtain ⟨rest, rfl⟩ := grown
  exact List.getElem?_append_left (List.getElem?_eq_some_iff.1 h).1 ▸ h

/-- Whom a step calls does not change as others join. -/
lemma calls_grown (grown : members <+: more) (named : ∀ member ∈ s.member?, member < members.length)
    (g : Nat) (e : Endpoint) : s.calls more g e = s.calls members g e := by
  cases s with
  | handle member e' r =>
    obtain ⟨rest, rfl⟩ := grown
    rw [Step.calls, Step.calls, List.getElem?_append_left (named member rfl)]
  | fresh => rfl
  | share member => rfl
  | count member e' => rfl
  | snapshot member => rfl

/-- What a reply says does not change as others join. -/
lemma Reply.Follows.grown {reply : Reply} {joined : Nat} (grown : members <+: more)
    (h : reply.Follows members joined earlier s) : reply.Follows more joined earlier s := by
  cases s <;> cases reply
  case fresh.joined n =>
    obtain ⟨number, g, at_n, first⟩ := h
    refine ⟨number, g, getElem?_grown grown at_n, fun m hm => ?_⟩
    obtain ⟨rest, rfl⟩ := grown
    have inside : n < members.length := (List.getElem?_eq_some_iff.1 at_n).1
    rw [List.getElem?_append_left (by omega)]
    exact first m hm
  case share.joined member n =>
    obtain ⟨number, g, same, at_n⟩ := h
    exact ⟨number, g, getElem?_grown grown same, getElem?_grown grown at_n⟩
  case count.count member e n =>
    obtain ⟨g, at_m, number⟩ := h
    exact ⟨g, getElem?_grown grown at_m, number⟩
  case snapshot.snapshot member c =>
    obtain ⟨g, at_m, numbers⟩ := h
    exact ⟨g, getElem?_grown grown at_m, numbers⟩
  case handle.served member e r e' answer after =>
    obtain ⟨same, g, at_m, rest⟩ := h
    exact ⟨same, g, getElem?_grown grown at_m, rest⟩
  all_goals exact h

/-- A member that joined has a group, and the group has counters. -/
lemma look_of_lt (tracks : f.Tracks earlier) {member : Nat} (h : member < f.members.length) :
    ∃ g c, f.members[member]? = some g ∧ f.counters[g]? = some c ∧
      f.look? member = some (g, c) := by
  have at_m := List.getElem?_eq_getElem h
  have inside := tracks.opened _ (List.getElem_mem h)
  have at_g := List.getElem?_eq_getElem inside
  refine ⟨_, _, at_m, at_g, ?_⟩
  rw [look?, at_m]
  simp only [at_g, Option.map_some]

/-- The same numbers of calls are tracked by the same fleet. -/
lemma Tracks.congr {earlier' : Nat → Endpoint → Nat} (tracks : f.Tracks earlier)
    (same : ∀ g e, earlier' g e = earlier g e) : f.Tracks earlier' := by
  rwa [show earlier' = earlier from funext fun g => funext fun e => same g e]

/-- A new member of an open group changes no counter. -/
lemma Tracks.join (tracks : f.Tracks earlier) {g : Nat} (inside : g < f.counters.length) :
    (f.join g).Tracks earlier := by
  refine ⟨fun g' mem => ?_, tracks.stands, tracks.unopened⟩
  cases List.mem_append.1 mem with
  | inl mem => exact tracks.opened g' mem
  | inr mem => exact List.mem_singleton.1 mem ▸ inside

/-- A new group stands at zero, and has no calls. -/
lemma Tracks.open (tracks : f.Tracks earlier) :
    Tracks { f with counters := f.counters ++ [.zero] } earlier := by
  refine ⟨fun g mem => ?_, fun g c at_g e => ?_, fun g above => tracks.unopened g ?_⟩
  · rw [List.length_append]
    exact Nat.lt_add_right _ (tracks.opened g mem)
  · rw [List.getElem?_append] at at_g
    split at at_g
    · exact tracks.stands g c at_g e
    · next above =>
      obtain ⟨inside, rfl⟩ := List.getElem?_eq_some_iff.1 at_g
      rw [List.getElem_singleton, Counters.count_zero,
        tracks.unopened g (Nat.le_of_not_lt above), Endpoint.phase_zero]
      rfl
  · rw [List.length_append] at above
    exact Nat.le_of_add_right_le above

/-- A call moves the counter of its endpoint in its group, and no other one. -/
lemma Tracks.handle (tracks : f.Tracks earlier) {g : Nat} {c : Counters}
    (at_g : f.counters[g]? = some c) (e : Endpoint) (r : Request) :
    Tracks { f with counters := f.counters.set g (Injector.handle c e r).2 }
      fun g' e' => earlier g' e' + (decide (g = g' ∧ e = e')).toNat := by
  have inside : g < f.counters.length := (List.getElem?_eq_some_iff.1 at_g).1
  refine ⟨fun g' mem => ?_, fun g' c' at_g' e' => ?_, fun g' above e' => ?_⟩
  · rw [List.length_set]
    exact tracks.opened g' mem
  · -- the group that was called apart from the others, and in it the endpoint from the others
    by_cases same : g = g'
    · subst same
      rw [List.getElem?_set_self inside] at at_g'
      cases at_g'
      by_cases called : e = e'
      · subst called
        simpa using (Injector.handle_follows r (tracks.stands g c at_g e)).2
      · rw [Injector.count_handle_other r (Ne.symm called)]
        simpa [called] using tracks.stands g c at_g e'
    · rw [List.getElem?_set_ne same] at at_g'
      simpa [same] using tracks.stands g' c' at_g' e'
  · rw [List.length_set] at above
    have other : g ≠ g' := by omega
    simpa [other] using tracks.unopened g' above e'

/-- The snapshot of counters that stand by a number of calls each. -/
lemma snapshot_of_stands {c : Counters} {calls : Endpoint → Nat}
    (stands : ∀ e : Endpoint, (c.count e).toNat = e.phase (calls e)) :
    c.snapshot = (Endpoint.all.filter Endpoint.scripted).map
      fun e => (e.name, .ofNat (e.phase (calls e))) := by
  unfold Counters.snapshot
  refine List.map_congr_left fun e _ => ?_
  rw [← stands, UInt32.ofNat_toNat]

/-- A step that names a member is replied to by the earlier calls, and counted. -/
lemma step_follows (tracks : f.Tracks earlier)
    (named : ∀ member ∈ s.member?, member < f.members.length) :
    ∃ reply f', f.step s = some (reply, f') ∧ f.members <+: f'.members ∧
      f'.members.length = f.members.length + s.joins.toNat ∧
      reply.Follows f'.members f.members.length earlier s ∧
      f'.Tracks fun g e => earlier g e + (s.calls f'.members g e).toNat := by
  cases s with
  | fresh =>
    have inside : f.counters.length < (f.counters ++ [Counters.zero]).length := by simp
    refine ⟨_, _, rfl, List.prefix_append _ _, List.length_append, ?_,
      (tracks.open.join inside).congr fun _ _ => rfl⟩
    refine ⟨rfl, f.counters.length, by simp [join], fun m hm taken => ?_⟩
    -- the groups of the earlier members are open, and this one is not
    rw [join, List.getElem?_append_left hm] at taken
    exact Nat.lt_irrefl _ (tracks.opened _ (List.mem_of_getElem? taken))
  | share member =>
    obtain ⟨g, c, at_m, at_g, looked⟩ := look_of_lt tracks (named member rfl)
    have inside : g < f.counters.length := (List.getElem?_eq_some_iff.1 at_g).1
    refine ⟨_, _, by rw [step, looked]; rfl, List.prefix_append _ _, List.length_append, ?_,
      (tracks.join inside).congr fun _ _ => rfl⟩
    exact ⟨rfl, g, getElem?_grown (List.prefix_append _ _) at_m, by simp [join]⟩
  | count member e =>
    obtain ⟨g, c, at_m, at_g, looked⟩ := look_of_lt tracks (named member rfl)
    refine ⟨_, _, by rw [step, looked]; rfl, List.prefix_rfl, rfl, ?_, tracks⟩
    exact ⟨g, at_m, tracks.stands g c at_g e⟩
  | snapshot member =>
    obtain ⟨g, c, at_m, at_g, looked⟩ := look_of_lt tracks (named member rfl)
    refine ⟨_, _, by rw [step, looked]; rfl, List.prefix_rfl, rfl, ?_, tracks⟩
    exact ⟨g, at_m, snapshot_of_stands (tracks.stands g c at_g)⟩
  | handle member e r =>
    obtain ⟨g, c, at_m, at_g, looked⟩ := look_of_lt tracks (named member rfl)
    obtain ⟨follows, counted⟩ := Injector.handle_follows r (tracks.stands g c at_g e)
    refine ⟨.served e (Injector.handle c e r).1 (Injector.handle c e r).2,
      { f with counters := f.counters.set g (Injector.handle c e r).2 }, by rw [step, looked]; rfl,
      List.prefix_rfl, rfl, ?_, ?_⟩
    · refine ⟨rfl, g, at_m, follows, counted, fun other different => ?_⟩
      rw [Injector.count_handle_other r different]
      exact tracks.stands g c at_g other
    · refine (tracks.handle at_g e r).congr fun g' e' => ?_
      simp only [Step.calls, at_m, Option.some.injEq]

/-- Steps that name members are all replied to, each by the calls before it. -/
lemma run_follows {steps : List Step} (tracks : f.Tracks earlier)
    (named : Named f.members.length steps) :
    ∃ replies last, f.run steps = some (replies, last) ∧ f.members <+: last.members ∧
      replies.length = steps.length ∧
      ∀ (i : Nat) (s : Step) (reply : Reply), steps[i]? = some s → replies[i]? = some reply →
        reply.Follows last.members (f.members.length + (steps.take i).countP Step.joins)
          (fun g e => earlier g e + (steps.take i).countP (Step.calls last.members g e)) s := by
  induction steps generalizing f earlier with
  | nil =>
    refine ⟨[], f, rfl, List.prefix_rfl, rfl, fun i s reply at_s => ?_⟩
    simp at at_s
  | cons s steps ih =>
    obtain ⟨names, named⟩ := named
    obtain ⟨reply, f', stepped, grown, length, follows, tracks⟩ := step_follows tracks names
    rw [← length] at named
    obtain ⟨replies, last, ran, grown', lengths, later⟩ := ih tracks named
    refine ⟨reply :: replies, last, ?_, grown.trans grown', congrArg (· + 1) lengths, ?_⟩
    · rw [run, stepped]
      simp only [ran, Option.map_some]
    · intro i s' reply' at_s at_r
      cases i with
      | zero =>
        cases at_s
        cases at_r
        simp only [List.take_zero, List.countP_nil, Nat.add_zero]
        exact follows.grown grown'
      | succ i =>
        have joined : f.members.length + ((s :: steps).take (i + 1)).countP Step.joins =
            f'.members.length + (steps.take i).countP Step.joins := by
          rw [List.take_succ_cons, List.countP_cons, length]
          cases s.joins <;> simp; omega
        -- the first step is counted before the others, among members that were there already
        have counts : (fun (g : Nat) (e : Endpoint) =>
            earlier g e + ((s :: steps).take (i + 1)).countP (Step.calls last.members g e)) =
            fun g e => earlier g e + (s.calls f'.members g e).toNat +
              (steps.take i).countP (Step.calls last.members g e) := by
          funext g e
          have same : s.calls last.members g e = s.calls f'.members g e :=
            (calls_grown (grown.trans grown') names g e).trans
              (calls_grown grown names g e).symm
          rw [List.take_succ_cons, List.countP_cons, same]
          cases s.calls f'.members g e <;> simp; omega
        rw [joined, counts]
        exact later i s' reply' at_s at_r

/-- One injector with fresh counters was not called yet. -/
lemma tracks_single : single.Tracks fun _ _ => 0 := by
  refine ⟨fun g mem => ?_, fun g c at_g e => ?_, fun _ _ _ => rfl⟩
  · cases List.mem_singleton.1 mem
    exact Nat.zero_lt_one
  · obtain ⟨inside, rfl⟩ := List.getElem?_eq_some_iff.1 at_g
    cases Nat.lt_one_iff.1 inside
    rw [Endpoint.phase_zero]
    cases e <;> rfl

/--
Whatever is done with injectors that join one by one, every step is replied to. A call is answered,
and a counter is read, by the number of the calls of the same endpoint that went before by any
injector of the same group; what the calls ask for, the calls of other endpoints and of other groups
and the reads make no difference.
-/
theorem run_single_follows (steps : List Step) (named : Named 1 steps) :
    ∃ replies last, single.run steps = some (replies, last) ∧ replies.length = steps.length ∧
      ∀ (i : Nat) (s : Step) (reply : Reply), steps[i]? = some s → replies[i]? = some reply →
        reply.Follows last.members (1 + (steps.take i).countP Step.joins)
          (fun g e => (steps.take i).countP (Step.calls last.members g e)) s := by
  obtain ⟨replies, last, ran, -, lengths, follows⟩ := run_follows tracks_single named
  simp only [Nat.zero_add] at follows
  exact ⟨replies, last, ran, lengths, follows⟩

/-- Calls of two injectors with the same counters, with another injector in between. -/
def sharedSteps : List Step :=
  let btc : Request := ⟨0, some "BTCUSDT"⟩
  let eth : Request := ⟨1, some "ETHUSDT"⟩
  [.share 0, .handle 0 .ticker btc, .fresh, .handle 1 .ticker eth, .handle 2 .ticker btc,
    .handle 0 .ticker eth, .handle 0 .time btc, .handle 1 .ticker btc, .count 0 .ticker]

/-- The fourth call of the two is refused. -/
theorem run_single_follows_shared :
    Named 1 sharedSteps ∧ ∃ replies last answer after,
      single.run sharedSteps = some (replies, last) ∧
      replies[7]? = some (.served .ticker answer after) ∧
      answer.attempt.map UInt32.toNat = some 4 ∧ answer.response.status = 429 := by
  have named : Named 1 sharedSteps := by simp [sharedSteps, Named, Step.member?, Step.joins]
  obtain ⟨replies, last, ran, lengths, follows⟩ := run_single_follows sharedSteps named
  have groups : last.members = [0, 0, 1] := by
    have known : (single.run sharedSteps).map (·.2.members) = some [0, 0, 1] := rfl
    rw [ran] at known
    exact Option.some.inj known
  obtain ⟨reply, at_r⟩ : ∃ reply, replies[7]? = some reply :=
    ⟨_, List.getElem?_eq_getElem (by rw [lengths]; decide)⟩
  have fourth := follows 7 _ reply rfl at_r
  cases reply
  case served e answer after =>
    rw [groups] at fourth
    obtain ⟨rfl, g, at_m, told, -⟩ := fourth
    cases at_m
    have three : (sharedSteps.take 7).countP (Step.calls [0, 0, 1] 0 .ticker) = 3 := by decide
    change answer.Follows .ticker ((sharedSteps.take 7).countP _) at told
    rw [three] at told
    have resets : answer.response.resets = true := told.resets.2 ⟨4, rfl, by decide⟩
    refine ⟨named, replies, last, answer, after, ran, at_r, told.attempt, ?_⟩
    rw [told.status, resets]
    rfl
  all_goals cases fourth

end Fleet

end SoakRig
