import Mathlib.Data.List.Nodup
import SoakRig.Proofs.Soak.Abreast
import SoakRig.Proofs.Template.Substitution

/-!
# Distinct tokens

Two iterations get different tokens from a token that holds the iteration placeholder. If the two
numbers are written with as many digits, all that is around them stands at the same places, and the
numbers themselves would have to be equal; if not, one of the two tokens is longer. So the calls of
a soak can be told apart by such a token, as long as the time does not blur it.
-/

namespace SoakRig

namespace Template

variable {v w : Slot → List Char} {ps : List Piece} {token : List Char} {s : Slot}

@[simp] lemma fill_cons (v : Slot → List Char) (p : Piece) (ps : List Piece) :
    fill v (p :: ps) = p.text v ++ fill v ps := rfl

lemma length_text_le (le : ∀ s, (v s).length ≤ (w s).length) (p : Piece) :
    (p.text v).length ≤ (p.text w).length := by
  cases p with
  | char c => exact Nat.le_refl 1
  | slot s => exact le s

/-- Values that are not longer do not make a longer text. -/
lemma length_fill_le (le : ∀ s, (v s).length ≤ (w s).length) (ps : List Piece) :
    (fill v ps).length ≤ (fill w ps).length := by
  induction ps with
  | nil => exact Nat.le_refl 0
  | cons p ps ih =>
    rw [fill_cons, fill_cons, List.length_append, List.length_append]
    exact Nat.add_le_add (length_text_le le p) ih

/-- A longer value makes a longer text, if there is a slot for it. -/
lemma length_fill_lt (le : ∀ s, (v s).length ≤ (w s).length)
    (lt : (v s).length < (w s).length) (mem : .slot s ∈ ps) :
    (fill v ps).length < (fill w ps).length := by
  induction ps with
  | nil => cases mem
  | cons p ps ih =>
    rw [fill_cons, fill_cons, List.length_append, List.length_append]
    cases mem with
    | head => exact Nat.add_lt_add_of_lt_of_le lt (length_fill_le le ps)
    | tail _ mem => exact Nat.add_lt_add_of_le_of_lt (length_text_le le p) (ih mem)

/-- From the text with values of known lengths the value of every slot in it can be read off. -/
lemma eq_of_fill_eq (same : ∀ s, (v s).length = (w s).length) (e : fill v ps = fill w ps)
    (mem : .slot s ∈ ps) : v s = w s := by
  induction ps with
  | nil => cases mem
  | cons p ps ih =>
    have length : (p.text v).length = (p.text w).length := by
      cases p with
      | char c => rfl
      | slot s => exact same s
    obtain ⟨first, later⟩ := List.append_inj e length
    cases mem with
    | head => exact first
    | tail _ mem => exact ih later mem

/-- Slots that do not occur need no particular value. -/
lemma fill_congr (same : ∀ s, .slot s ∈ ps → v s = w s) : fill v ps = fill w ps := by
  induction ps with
  | nil => rfl
  | cons p ps ih =>
    rw [fill_cons, fill_cons, ih (fun s mem => same s (.tail p mem))]
    cases p with
    | char c => rfl
    | slot s => rw [Piece.text, Piece.text, same s List.mem_cons_self]

/-- A token has a slot exactly if it holds its placeholder. -/
lemma slot_mem_pieces_iff : .slot s ∈ pieces token ↔ s.placeholder <:+: token := by
  induction token using token_induct with
  | nil =>
    have not_held : ¬s.placeholder <:+: [] :=
      fun held => s.placeholder_ne_nil (List.infix_nil.1 held)
    exact iff_of_false List.not_mem_nil not_held
  | slot t rest ih =>
    rw [pieces_placeholder, List.mem_cons, ih]
    constructor
    · rintro (same | held)
      · cases same
        exact (List.prefix_append _ _).isInfix
      · exact held.trans (List.suffix_append _ _).isInfix
    · intro held
      by_cases same : s = t
      · exact .inl (congrArg Piece.slot same)
      -- no other placeholder begins in this one
      · obtain ⟨word, s_eq, -⟩ := s.opened
        obtain ⟨name, t_eq, plain⟩ := t.opened
        have away : ¬s.placeholder <+: t.placeholder ++ rest := fun start =>
          same (Slot.eq_of_prefix start)
        rw [t_eq, List.cons_append] at held away
        have later := (List.infix_cons_iff.1 held).resolve_left away
        rw [s_eq] at later ⊢
        exact .inr (Text.infix_of_infix_append plain later)
  | char c rest plain ih =>
    rw [pieces_cons plain, List.mem_cons, ih, List.infix_cons_iff]
    constructor
    · rintro (same | held)
      · cases same
      · exact .inr held
    · rintro (start | held)
      · exact absurd start (plain s)
      · exact .inr held

/-- Where only one slot has two values, no value is longer than the other if this one is not. -/
lemma length_le_of_others (others : ∀ t, t ≠ s → v t = w t)
    (le : (v s).length ≤ (w s).length) (t : Slot) : (v t).length ≤ (w t).length := by
  by_cases same : t = s
  · rwa [same]
  · rw [others t same]

/-- Two values of one slot give two texts, if the token holds its placeholder. -/
lemma substitute_ne (others : ∀ t, t ≠ s → v t = w t) (differ : v s ≠ w s)
    (held : s.placeholder <:+: token) : substitute v token ≠ substitute w token := by
  have mem := slot_mem_pieces_iff.2 held
  have others' : ∀ t, t ≠ s → w t = v t := fun t other => (others t other).symm
  intro e
  have lengths : (fill v (pieces token)).length = (fill w (pieces token)).length :=
    congrArg List.length e
  rcases Nat.lt_trichotomy (v s).length (w s).length with shorter | same | longer
  · have le := length_le_of_others others (Nat.le_of_lt shorter)
    exact Nat.ne_of_lt (length_fill_lt le shorter mem) lengths
  · have le := length_le_of_others others (Nat.le_of_eq same)
    have ge := length_le_of_others others' (Nat.le_of_eq same.symm)
    exact differ (eq_of_fill_eq (fun t => Nat.le_antisymm (le t) (ge t)) e mem)
  · have ge := length_le_of_others others' (Nat.le_of_lt longer)
    exact Nat.ne_of_gt (length_fill_lt ge longer mem) lengths

lemma values_iteration_ne {i j : UInt32} (ne : i ≠ j) (time hour : Int) :
    values i time .iteration ≠ values j hour .iteration := by
  intro same
  exact ne (UInt32.toNat_inj.1 (Decimal.natural_injective same))

/-- At one time two iterations get different tokens. -/
lemma renderToken_ne {token : String} (held : iterationPlaceholder <:+: token.toList) {i j : UInt32}
    (ne : i ≠ j) (time : Int) : renderToken i time token ≠ renderToken j time token := by
  intro same
  have chars := String.ofList_injective same
  rw [renderChars_eq, renderChars_eq] at chars
  refine substitute_ne (s := .iteration) (fun t other => ?_) (values_iteration_ne ne time time)
    held chars
  cases t with
  | iteration => exact absurd rfl other
  | time => rfl

/-- The time makes no difference to a token without its placeholder. -/
lemma renderToken_eq_of_timeless {token : String} (timeless : ¬timePlaceholder <:+: token.toList)
    (i : UInt32) (time hour : Int) : renderToken i time token = renderToken i hour token := by
  rw [renderToken, renderToken, renderChars_eq, renderChars_eq]
  refine congrArg String.ofList (fill_congr fun s mem => ?_)
  cases s with
  | iteration => rfl
  | time => exact absurd (slot_mem_pieces_iff.1 mem) timeless

end Template

/-- The clock stands still at a time, however much time passes. -/
def World.Stopped (w : World) (time : Int) : Prop := ∀ d, w.clock d = time

/-- The clock shows such times only, however much time passes. -/
def World.Shows (clock : Int → Prop) (w : World) : Prop := ∀ d, clock (w.clock d)

namespace Soak

variable {σ : Type} {runner : Runner σ} {config : Config} {p : Progress σ} {clock : Int → Prop}

/-- The runs of the client do not set a clock that stands still. -/
def Runner.Still (runner : Runner σ) : Prop :=
  ∀ args timeout state (world : World) time, world.Stopped time →
    (runner.run args timeout state world).2.2.Stopped time

/-- The clock goes on to show such times. -/
def Runner.Keeps (runner : Runner σ) (clock : Int → Prop) : Prop :=
  ∀ args timeout state (world : World), world.Shows clock →
    (runner.run args timeout state world).2.2.Shows clock

/-- Every call got the command rendered for its number, at a time that the clock may show. -/
def Rendered (config : Config) (clock : Int → Prop) (calls : List Call) : Prop :=
  ∀ k c, calls[k]? = some c → ∃ time, clock time ∧
    c.args = Template.render config.command (UInt32.ofNat (k + 1)) time

/-- What holds of a soak before the iteration with the number. -/
structure Issued (config : Config) (clock : Int → Prop) (i : Nat) (p : Progress σ) : Prop where
  number : p.calls.length + 1 = i
  time : p.world.Shows clock
  rendered : Rendered config clock p.calls.reverse

/-- One more call that is rendered for its number. -/
lemma Rendered.snoc {calls : List Call} {c : Call} {time : Int}
    (rendered : Rendered config clock calls) (shown : clock time)
    (args : c.args = Template.render config.command (UInt32.ofNat (calls.length + 1)) time) :
    Rendered config clock (calls ++ [c]) := by
  intro k d at_k
  rcases Nat.lt_or_ge k calls.length with earlier | last
  · rw [List.getElem?_append_left earlier] at at_k
    exact rendered k d at_k
  · rw [List.getElem?_append_right last] at at_k
    obtain ⟨rfl, zero⟩ : c = d ∧ k - calls.length = 0 := by
      cases e : k - calls.length with
      | zero =>
        rw [e] at at_k
        cases at_k
        exact ⟨rfl, rfl⟩
      | succ n =>
        rw [e] at at_k
        cases at_k
    obtain rfl : k = calls.length := by omega
    exact ⟨time, shown, args⟩

/-- Whether an iteration is told or not, its call was made and noted. -/
lemma iterate_snd (runner : Runner σ) (config : Config) (index : UInt32) (p : Progress σ) :
    (iterate runner config index p).2.calls = (noted runner config index p).calls ∧
      (iterate runner config index p).2.world = (noted runner config index p).world := by
  generalize e : p.out.write (block config.verbose config.timeout index
    (answer runner config index p)) = r
  obtain ⟨_ | ⟨⟩, out⟩ := r
  · rw [iterate_of_refused e]
    exact ⟨rfl, rfl⟩
  · rw [iterate_of_written e]
    exact ⟨rfl, rfl⟩

/-- One iteration issues its arguments, whether it is told or not. -/
lemma Issued.iterate {i : Nat} (keeps : runner.Keeps clock) (issued : Issued config clock i p) :
    Issued config clock (i + 1) (iterate runner config (UInt32.ofNat i) p).2 := by
  obtain ⟨calls, world⟩ := iterate_snd runner config (UInt32.ofNat i) p
  constructor
  case number =>
    rw [calls]
    exact congrArg (· + 1) issued.number
  case time =>
    rw [world]
    intro d
    show clock ((note _ _ _ _).clock d)
    rw [clock_note]
    exact keeps _ _ _ (p.world.report _) issued.time d
  case rendered =>
    rw [calls]
    show Rendered config clock (List.reverse (_ :: p.calls))
    rw [List.reverse_cons]
    refine issued.rendered.snoc (issued.time p.world.elapsed) ?_
    rw [List.length_reverse, issued.number]
    rfl

lemma clock_rested {left : Nat} : (rested config left p).world.clock = p.world.clock := by
  -- the length of the pause is a variable, for it takes very long to compute
  have passed (w : World) (d : Duration) : (w.pass d).clock = w.clock := rfl
  unfold rested
  split
  · rfl
  · simp only [pause, World.sleep]
    split
    · exact passed ..
    · rfl

/-- The pause after an iteration issues nothing. -/
lemma Issued.rested {i left : Nat} (issued : Issued config clock i p) :
    Issued config clock i (rested config left p) := by
  constructor
  case number => rw [rested_calls, issued.number]
  case time =>
    intro d
    rw [clock_rested]
    exact issued.time d
  case rendered => rw [rested_calls]; exact issued.rendered

/-- However the iterations end, they have issued the arguments of the first ones. -/
lemma Issued.iterations {i : Nat} (keeps : runner.Keeps clock) (left : Nat)
    (issued : Issued config clock i p) :
    ∃ j ≤ i + left, Issued config clock j (iterations runner config left i p).2 := by
  induction left generalizing i p with
  | zero => exact ⟨i, Nat.le_refl i, issued⟩
  | succ left ih =>
    have next := issued.iterate keeps
    generalize e : Soak.iterate runner config (UInt32.ofNat i) p = turn at next
    obtain ⟨_ | a, q⟩ := turn
    · rw [iterations_of_error e]
      exact ⟨i + 1, by omega, next⟩
    · rw [iterations_of_ok e]
      obtain ⟨j, le, last⟩ := ih next.rested
      exact ⟨j, by omega, last⟩

/-- However a soak ends, its calls are those of its iterations, if it came to them. -/
lemma calls_run (runner : Runner σ) (config : Config) (p : Progress σ) :
    (run runner config p).2.calls = p.calls ∨
      (run runner config p).2.calls =
        (iterations runner config config.iterations.toNat 1 (begun runner config p)).2.calls := by
  by_cases command : config.command = []
  · rw [run_of_no_command command]
    exact .inl rfl
  rw [run, if_neg command, begun]
  generalize prepare config p.world = ready
  obtain ⟨_ | ⟨⟩, w⟩ := ready
  · exact .inl rfl
  right
  simp only
  generalize iterations runner config config.iterations.toNat 1 _ = told
  obtain ⟨_ | ⟨⟩, q⟩ := told
  · rfl
  simp only
  generalize e : q.out.write (q.summary config).render = r
  obtain ⟨_ | ⟨⟩, out⟩ := r
  · rw [finish_of_refused e]
  · rw [finish_of_written e]
    rfl

/-- However a soak ends, each of its calls got the command rendered for its number. -/
lemma rendered_run {world : World} (config : Config) (state : σ) (out : Sink)
    (keeps : runner.Keeps clock) (shown : world.Shows clock) :
    let calls := (run runner config (.start state world out)).2.calls.reverse
    calls.length ≤ config.iterations.toNat ∧ Rendered config clock calls := by
  have issued : Issued config clock 1 (begun runner config (.start state world out)) := by
    have kept : (prepare config world).2.clock = world.clock := (alike_prepare config world).clock
    exact ⟨rfl, fun d => (congrFun kept d).symm ▸ shown d, fun k c at_k => by cases at_k⟩
  obtain ⟨j, le, last⟩ := issued.iterations keeps config.iterations.toNat
  intro calls
  rcases calls_run runner config (.start state world out) with none_made | made
  · have nothing : calls = [] := congrArg List.reverse none_made
    rw [nothing]
    exact ⟨Nat.zero_le _, fun k c at_k => by cases at_k⟩
  · have number := last.number
    have all : calls = _ := congrArg List.reverse made
    rw [all, List.length_reverse]
    exact ⟨by omega, last.rendered⟩

/-- What the calls got in the place of a token is different, if it tells the iterations apart. -/
lemma Rendered.nodup {calls : List Call} {token : String} {n : Nat}
    (rendered : Rendered config clock calls) (few : calls.length ≤ config.iterations.toNat)
    (place : config.command[n]? = some token)
    (apart : ∀ {i j : UInt32} {time hour}, i ≠ j → clock time → clock hour →
      Template.renderToken i time token ≠ Template.renderToken j hour token) :
    (calls.map fun c => c.args[n]?).Nodup := by
  have args {k : Nat} (lt : k < calls.length) : ∃ time, clock time ∧
      (calls.map fun c => c.args[n]?)[k]? =
        some (some (Template.renderToken (UInt32.ofNat (k + 1)) time token)) := by
    obtain ⟨time, shown, args⟩ := rendered k calls[k] (List.getElem?_eq_getElem lt)
    refine ⟨time, shown, ?_⟩
    rw [List.getElem?_map, List.getElem?_eq_getElem lt, Option.map_some, args, Template.render,
      List.getElem?_map, place, Option.map_some]
  have number {k : Nat} (lt : k < calls.length) : (UInt32.ofNat (k + 1)).toNat = k + 1 := by
    exact UInt32.toNat_ofNat_of_lt
      (Nat.lt_of_le_of_lt (Nat.le_trans lt few) config.iterations.toNat_lt)
  rw [List.nodup_iff_getElem?_ne_getElem?]
  intro k l before lt
  rw [List.length_map] at lt
  have earlier : k < calls.length := Nat.lt_trans before lt
  obtain ⟨time, shown, at_k⟩ := args earlier
  obtain ⟨hour, shown_too, at_l⟩ := args lt
  rw [at_k, at_l]
  intro same
  simp only [Option.some.injEq] at same
  refine apart (fun e => ?_) shown shown_too same
  have numbers := congrArg UInt32.toNat e
  rw [number earlier, number lt] at numbers
  omega

/--
A token that holds the iteration placeholder is rendered differently for two different iterations at
one time, and at any two times if it does not hold the time placeholder. So the calls of a soak get
pairwise different tokens in its place, however the soak ends, if the clock stands still or the token
does not tell the time.
-/
theorem render_distinct {token : String} (held : Template.iterationPlaceholder <:+: token.toList) :
    (∀ (i j : UInt32) (time : Int), i ≠ j →
      Template.render [token] i time ≠ Template.render [token] j time) ∧
    (¬Template.timePlaceholder <:+: token.toList → ∀ (i j : UInt32) (time hour : Int), i ≠ j →
      Template.render [token] i time ≠ Template.render [token] j hour) ∧
    ∀ {σ : Type} (runner : Runner σ) (config : Config) (state : σ) (world : World) (out : Sink)
      (n : Nat), config.command[n]? = some token →
      (∃ time, world.Stopped time) ∧ runner.Still ∨
        ¬Template.timePlaceholder <:+: token.toList →
      ((run runner config (.start state world out)).2.calls.map fun c => c.args[n]?).Nodup := by
  have timeless (free : ¬Template.timePlaceholder <:+: token.toList) {i j : UInt32}
      {time hour : Int} (ne : i ≠ j) :
      Template.renderToken i time token ≠ Template.renderToken j hour token := by
    rw [Template.renderToken_eq_of_timeless free j hour time]
    exact Template.renderToken_ne held ne time
  refine ⟨fun i j time ne => ?_, fun free i j time hour ne => ?_, ?_⟩
  · rw [Template.render, Template.render, List.map_singleton, List.map_singleton]
    exact fun same => Template.renderToken_ne held ne time (List.singleton_inj.1 same)
  · rw [Template.render, Template.render, List.map_singleton, List.map_singleton]
    exact fun same => timeless free ne (List.singleton_inj.1 same)
  · intro σ runner config state world out n place clock
    rw [← List.nodup_reverse, ← List.map_reverse]
    rcases clock with ⟨⟨time, stopped⟩, still⟩ | free
    · have keeps : runner.Keeps (· = time) := fun args timeout state w shown =>
        still args timeout state w time shown
      obtain ⟨few, rendered⟩ := rendered_run config state out keeps stopped
      refine rendered.nodup few place fun ne shown shown_too => ?_
      rw [shown, shown_too]
      exact Template.renderToken_ne held ne time
    · have keeps : runner.Keeps fun _ => True := fun _ _ _ _ _ _ => trivial
      have shown : world.Shows fun _ => True := fun _ => trivial
      obtain ⟨few, rendered⟩ := rendered_run config state out keeps shown
      exact rendered.nodup few place fun ne _ _ => timeless free ne

/-- A soak whose command tells the number of the iteration twice, behind another digit. -/
def tellingConfig : Config := { mixedConfig with command := ["add", "1\x7bi\x7d\x7bi\x7d"] }

lemma still_scripted : (scripted 0).Still := by
  rintro args timeout ⟨_ | ⟨a, as⟩, fallback⟩ world time stopped d <;>
    exact (Int.add_zero _).trans (stopped d)

lemma stopped_still (files : FileTree) (time : Int) : (World.still files time).Stopped time :=
  fun _ => rfl

/-- The digits of iterations 1 and 11 stand at different places, and the six calls of a soak differ
in them. -/
theorem render_distinct_shifted :
    Template.iterationPlaceholder <:+: "1\x7bi\x7d\x7bi\x7d".toList ∧
      ¬Template.timePlaceholder <:+: "1\x7bi\x7d\x7bi\x7d".toList ∧
      Template.render ["1\x7bi\x7d\x7bi\x7d"] 1 0 ≠ Template.render ["1\x7bi\x7d\x7bi\x7d"] 11 0 ∧
      Template.render ["1\x7bi\x7d\x7bi\x7d"] 1 5 ≠ Template.render ["1\x7bi\x7d\x7bi\x7d"] 11 8 ∧
      (scripted 0).Still ∧ ∃ s q,
        run (scripted 0) tellingConfig (.start mixedScript (.still .fresh 0) .unbounded) =
          (.ok s, q) ∧
        q.calls.length = 6 ∧ (q.calls.map fun c => c.args[1]?).Nodup := by
  have held : Template.iterationPlaceholder <:+: "1\x7bi\x7d\x7bi\x7d".toList := by decide
  have free : ¬Template.timePlaceholder <:+: "1\x7bi\x7d\x7bi\x7d".toList := by decide
  obtain ⟨at_one_time, at_two_times, in_a_soak⟩ := render_distinct held
  have command : tellingConfig.command ≠ [] := by decide
  obtain ⟨s, q, calls, last, ran, made, length, -⟩ := exists_passes (scripted 0) mixedScript
    (.still .fresh 0) .unbounded command usable_mixed rfl
  have distinct := in_a_soak (scripted 0) tellingConfig mixedScript (.still .fresh 0)
    .unbounded 1 rfl (.inl ⟨⟨0, stopped_still .fresh 0⟩, still_scripted⟩)
  rw [ran] at distinct
  refine ⟨held, free, at_one_time 1 11 0 (by decide), at_two_times free 1 11 5 8 (by decide),
    still_scripted, s, q, ran, ?_, distinct⟩
  rw [← List.length_reverse, made, length]
  rfl

end Soak

end SoakRig
