import Mathlib.Data.List.Perm.Basic
import SoakRig.Proofs.Injector.Serving

/-!
# Clients that share an injector

Several clients call the endpoints through injectors that share their counters, each client in its
own order and all of them in any order. Every order makes the same calls, so in every order each
attempt number is served its share, no cycle is skipped, and the counters end alike.
-/

namespace SoakRig

/--
The lists are put together in some order, and it is noted which list everything comes from: whatever
comes next is the first of what is left of one of the lists.
-/
inductive Interleaving {α : Type} : List (List α) → List (Nat × α) → Prop where
  | done {lists} (finished : ∀ list ∈ lists, list = []) : Interleaving lists []
  | turn {lists i x rest order} (next : lists[i]? = some (x :: rest))
      (later : Interleaving (lists.set i rest) order) : Interleaving lists ((i, x) :: order)

namespace Interleaving

variable {α : Type} {lists : List (List α)} {order : List (Nat × α)}

/-- An order has everything of the lists and nothing else. -/
lemma perm (h : Interleaving lists order) : (order.map Prod.snd).Perm lists.flatten := by
  induction h with
  | done finished =>
    rw [List.flatten_eq_nil_iff.2 finished]
    exact .nil
  | @turn lists i x rest order next later ih =>
    obtain ⟨here, at_i⟩ := List.getElem?_eq_some_iff.1 next
    obtain ⟨front, back, whole, -, left⟩ : ∃ front back, lists = front ++ lists[i] :: back ∧
        front.length = i ∧ lists.set i rest = front ++ rest :: back := List.exists_of_set here
    rw [left, List.flatten_append, List.flatten_cons] at ih
    rw [whole, at_i, List.flatten_append, List.flatten_cons, List.map_cons]
    exact (ih.cons x).trans List.perm_middle.symm

/-- Whatever is in an order comes from one of the lists. -/
lemma lt (h : Interleaving lists order) : ∀ x ∈ order, x.1 < lists.length := by
  induction h with
  | done => exact nofun
  | @turn lists i x rest order next later ih =>
    have here := (List.getElem?_eq_some_iff.1 next).1
    simpa [here] using ih

end Interleaving

namespace Fleet

/-- The answer to a call. -/
def Reply.answer? : Reply → Option (Endpoint × Served)
  | .served e answer _ => some (e, answer)
  | .joined _ | .count _ | .snapshot _ => none

/-- Clients get an injector each, with the counters of the first one, and make calls in an order. -/
def calling (clients : Nat) (order : List (Nat × Endpoint × Request)) : List Step :=
  List.replicate clients (.share 0) ++ order.map fun x => .handle (x.1 + 1) x.2.1 x.2.2

/-- So many injectors that share their counters. -/
def team (size : Nat) (c : Counters) : Fleet := ⟨[c], List.replicate size 0⟩

variable {c : Counters} {order : List (Nat × Endpoint × Request)}

/-- Every injector of a team uses the same counters. -/
lemma look_team {size member : Nat} (inside : member < size) :
    (team size c).look? member = some (0, c) := by
  have at_member : (team size c).members[member]? = some 0 := by
    rw [team, List.getElem?_replicate, if_pos inside]
  rw [look?, at_member]
  rfl

/-- An injector that joins a team makes it larger by one. -/
lemma step_share (size : Nat) :
    (team (size + 1) c).step (.share 0) = some (.joined (size + 1), team (size + 2) c) := by
  rw [step, look_team (Nat.succ_pos size), team, team, List.replicate_succ' (n := size + 1)]
  simp [join]

/-- A call through an injector of a team is a call with the counters of the team. -/
lemma step_handle {size member : Nat} (inside : member < size) (e : Endpoint) (r : Request) :
    (team size c).step (.handle member e r) =
      some (.served e (Injector.handle c e r).1 (Injector.handle c e r).2,
        team size (Injector.handle c e r).2) := by
  rw [step, look_team inside]
  rfl

/-- Injectors join a team without an answer to any call. -/
lemma run_shares (size n : Nat) (steps : List Step) :
    ∃ joined, joined.filterMap Reply.answer? = [] ∧
      (team (size + 1) c).run (List.replicate n (.share 0) ++ steps) =
        ((team (size + 1 + n) c).run steps).map
          fun (replies, last) => (joined ++ replies, last) := by
  induction n generalizing size with
  | zero => exact ⟨[], rfl, by simp⟩
  | succ n ih =>
    obtain ⟨joined, no_answer, ran⟩ := ih (size + 1)
    refine ⟨.joined (size + 1) :: joined, no_answer, ?_⟩
    have sizes : size + 1 + (n + 1) = size + 1 + 1 + n := by omega
    rw [List.replicate_succ, List.cons_append, run, step_share, sizes]
    simp only [ran]
    cases (team (size + 1 + 1 + n) c).run steps <;> rfl

/-- Calls through injectors of a team are calls one after another. -/
lemma run_calls {size : Nat} (named : ∀ x ∈ order, x.1 + 1 < size) :
    ∃ replies, (team size c).run (order.map fun x => .handle (x.1 + 1) x.2.1 x.2.2) =
        some (replies, team size (Injector.serve c (order.map Prod.snd)).2) ∧
      replies.filterMap Reply.answer? = (Injector.serve c (order.map Prod.snd)).1 := by
  induction order generalizing c with
  | nil => exact ⟨[], rfl, rfl⟩
  | cons x order ih =>
    have called := step_handle (c := c) (named x List.mem_cons_self) x.2.1 x.2.2
    obtain ⟨replies, ran, answers⟩ := ih (c := (Injector.handle c x.2.1 x.2.2).2)
      fun y mem => named y (List.mem_cons_of_mem _ mem)
    rw [List.map_cons, List.map_cons, Injector.serve_cons]
    refine ⟨.served x.2.1 (Injector.handle c x.2.1 x.2.2).1 (Injector.handle c x.2.1 x.2.2).2 ::
      replies, ?_, ?_⟩
    · rw [run, called]
      simp only [ran, Option.map_some]
    · rw [List.filterMap_cons]
      simp only [Reply.answer?, answers]

/--
Several clients call through injectors that share fresh counters, in any order. In every order the
counters end alike, and every attempt number of an endpoint with a cycle is served its share of the
calls of that endpoint; as many whole cycles as the calls make up are completed, and none is skipped.
-/
theorem run_interleaved (clients : List (List (Endpoint × Request))) :
    ∃ c : Counters, ∀ order, Interleaving clients order →
      ∃ replies last, single.run (calling clients.length order) = some (replies, last) ∧
        (∀ member ≤ clients.length, last.look? member = some (0, c)) ∧
        ∀ e k, e.cycle? = some k →
          Injector.Shared e k (Injector.callsOf e clients.flatten)
            (replies.filterMap Reply.answer?) c := by
  refine ⟨(Injector.serve .zero clients.flatten).2, fun order inter => ?_⟩
  have named : ∀ x ∈ order, x.1 + 1 < 0 + 1 + clients.length := by
    intro x mem
    have := inter.lt x mem
    omega
  obtain ⟨joined, no_answer, joining⟩ := run_shares (c := .zero) 0 clients.length
    (order.map fun x => .handle (x.1 + 1) x.2.1 x.2.2)
  obtain ⟨replies, ran, answers⟩ := run_calls (c := .zero) named
  rw [Injector.serve_perm inter.perm] at ran
  refine ⟨joined ++ replies, team (0 + 1 + clients.length) _, ?_,
    fun member inside => look_team ?_, fun e k cycle => ?_⟩
  · rw [ran] at joining
    exact joining
  · omega
  · rw [List.filterMap_append, no_answer, answers, List.nil_append,
      ← Injector.serve_perm inter.perm]
    have total : Injector.callsOf e (order.map Prod.snd) = Injector.callsOf e clients.flatten :=
      inter.perm.countP_eq _
    rw [← total]
    exact Injector.shared_serve cycle _

/-- Two clients that ask for a price twice each; one of them asks for the time in between. -/
def pair : List (List (Endpoint × Request)) :=
  let btc : Request := ⟨0, some "BTCUSDT"⟩
  let eth : Request := ⟨1, some "ETHUSDT"⟩
  [[(.ticker, btc), (.time, btc), (.ticker, btc)], [(.ticker, eth), (.ticker, eth)]]

/-- The calls of the two clients by turns. -/
def byTurns : List (Nat × Endpoint × Request) :=
  let btc : Request := ⟨0, some "BTCUSDT"⟩
  let eth : Request := ⟨1, some "ETHUSDT"⟩
  [(0, .ticker, btc), (1, .ticker, eth), (0, .time, btc), (1, .ticker, eth), (0, .ticker, btc)]

/-- The calls of the second client, and then those of the first one. -/
def oneByOne : List (Nat × Endpoint × Request) :=
  let btc : Request := ⟨0, some "BTCUSDT"⟩
  let eth : Request := ⟨1, some "ETHUSDT"⟩
  [(1, .ticker, eth), (1, .ticker, eth), (0, .ticker, btc), (0, .time, btc), (0, .ticker, btc)]

/-- In both orders one price is refused, and the next cycle begins. -/
theorem run_interleaved_pair :
    Interleaving pair byTurns ∧ Interleaving pair oneByOne ∧
      ∃ c : Counters, c.count .ticker = 0 ∧ (c.count .time).toNat = 1 ∧
        ∀ order ∈ [byTurns, oneByOne], ∃ replies last,
          single.run (calling 2 order) = some (replies, last) ∧ last.look? 2 = some (0, c) ∧
            (replies.filterMap Reply.answer?).countP (Injector.restarted .ticker) = 1 := by
  have finished : ∀ list ∈ ([[], []] : List (List (Endpoint × Request))), list = [] := by simp
  have turns : Interleaving pair byTurns :=
    .turn rfl (.turn rfl (.turn rfl (.turn rfl (.turn rfl (.done finished)))))
  have rows : Interleaving pair oneByOne :=
    .turn rfl (.turn rfl (.turn rfl (.turn rfl (.turn rfl (.done finished)))))
  obtain ⟨c, all⟩ := run_interleaved pair
  obtain ⟨replies, last, -, -, shares⟩ := all byTurns turns
  refine ⟨turns, rows, c, ((shares .ticker 4 rfl).whole 1 rfl).2, (shares .time 4 rfl).counter,
    fun order mem => ?_⟩
  have inter : Interleaving pair order := by
    obtain rfl | rfl : order = byTurns ∨ order = oneByOne := by simpa using mem
    · exact turns
    · exact rows
  obtain ⟨replies, last, ran, looks, shares⟩ := all order inter
  exact ⟨replies, last, ran, looks 2 le_rfl, ((shares .ticker 4 rfl).whole 1 rfl).1⟩

end Fleet

end SoakRig
