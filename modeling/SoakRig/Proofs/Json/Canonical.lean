import SoakRig.Json.Records
import SoakRig.Proofs.Binary64.Finite
import SoakRig.Proofs.Lookup

/-!
# Records written and read back

What is written of a record is read back as the same record, as long as its numbers are finite; and
whatever a record was read from has finite numbers only. So a value that is read and written again
has its final form after one step. Of the values that a record may be read from, the reader sees no
more than the fields: not their order, nor other fields, nor whether the names are there at all.
-/

namespace SoakRig

namespace Json

/-- What a value may be: whole numbers have 64 bits, with a sign or without one, other numbers are
finite, and no name occurs twice in an object. -/
inductive IsValue : Json → Prop where
  | null : IsValue .null
  | bool (b : Bool) : IsValue (.bool b)
  | integer {n : Int} : -twoTo 63 ≤ n → n < twoTo 64 → IsValue (.integer n)
  | number {x : Binary64} : x.IsFinite → IsValue (.number x)
  | string (s : String) : IsValue (.string s)
  | array {items : List Json} : (∀ item ∈ items, IsValue item) → IsValue (.array items)
  | object {fields : List (String × Json)} :
    (fields.map Prod.fst).Nodup → (∀ f ∈ fields, IsValue f.2) → IsValue (.object fields)

/-- Records of a kind are written as values and read back, from whatever they were read before. -/
structure Faithful {α : Type} (write : α → Json) (read? : Json → Option α) (Finite : α → Prop) :
    Prop where
  /-- What is written is a value. -/
  value : ∀ x, (write x).IsValue
  /-- What is written is read back. -/
  back : ∀ x, Finite x → read? (write x) = some x
  /-- What was read from any value is written so that it is read again. -/
  again : ∀ v x, v.IsValue → read? v = some x → read? (write x) = some x
  /-- What was read from any value and written stays as it is when it is read and written again. -/
  settled : ∀ v c, v.IsValue → (read? v).map write = some c → (read? c).map write = some c

/-- It is enough that what is read from a value is finite. -/
lemma faithful_of_finite {α : Type} {write : α → Json} {read? : Json → Option α}
    {Finite : α → Prop} (value : ∀ x, (write x).IsValue)
    (back : ∀ x, Finite x → read? (write x) = some x)
    (finite : ∀ v x, v.IsValue → read? v = some x → Finite x) : Faithful write read? Finite := by
  have again : ∀ v x, v.IsValue → read? v = some x → read? (write x) = some x :=
    fun v x value read => back x (finite v x value read)
  refine ⟨value, back, again, fun v c value written => ?_⟩
  obtain ⟨x, read, rfl⟩ := Option.map_eq_some_iff.1 written
  rw [again v x value read]
  rfl

/-! ## Numbers -/

lemma between?_integer {low high n : Int} (low_le : low ≤ n) (le_high : n ≤ high) :
    between? low high (.integer n) = some n := if_pos ⟨low_le, le_high⟩

lemma uint32?_ofNat (n : UInt32) : uint32? (ofNat n.toNat) = some n := by
  have lt : n.toNat < twoTo 32 := n.toNat_lt
  rw [uint32?, ofNat, between?_integer (Int.natCast_nonneg _) (by omega), Option.map_some,
    Int.toNat_natCast, UInt32.ofNat_toNat]

lemma uint64?_ofNat (n : UInt64) : uint64? (ofNat n.toNat) = some n := by
  have lt : n.toNat < twoTo 64 := n.toNat_lt
  rw [uint64?, ofNat, between?_integer (Int.natCast_nonneg _) (by omega), Option.map_some,
    Int.toNat_natCast, UInt64.ofNat_toNat]

lemma int32?_integer (n : Int32) : int32? (.integer n.toInt) = some n := by
  have low : -twoTo 31 ≤ n.toInt := n.le_toInt
  have high : n.toInt < twoTo 31 := n.toInt_lt
  rw [int32?, between?_integer low (by omega), Option.map_some, Int32.ofInt_toInt]

lemma isValue_ofNat {n : Nat} (lt : n < twoTo 64) : (ofNat n).IsValue :=
  .integer (by omega) (by omega)

lemma isValue_uint32 (n : UInt32) : (ofNat n.toNat).IsValue :=
  isValue_ofNat (Nat.lt_of_lt_of_le n.toNat_lt (twoTo_le (m := 32) (by decide)))

lemma isValue_int32 (n : Int32) : (Json.integer n.toInt).IsValue := by
  have low : -twoTo 31 ≤ n.toInt := n.le_toInt
  have high : n.toInt < twoTo 31 := n.toInt_lt
  have below : twoTo 31 ≤ twoTo 63 := twoTo_le (by decide)
  have above : twoTo 31 ≤ twoTo 64 := twoTo_le (by decide)
  exact .integer (by omega) (by omega)

lemma ofBinary64_of_isFinite {x : Binary64} (finite : x.IsFinite) : ofBinary64 x = .number x := by
  rw [ofBinary64, Binary64.isFinite_iff.1 finite]
  rfl

lemma binary64?_ofBinary64 {x : Binary64} (finite : x.IsFinite) :
    binary64? (ofBinary64 x) = some x := by
  rw [ofBinary64_of_isFinite finite]
  rfl

/-- A number is written as a value in any case: as null if it is not finite. -/
lemma isValue_ofBinary64 (x : Binary64) : (ofBinary64 x).IsValue := by
  by_cases finite : x.IsFinite
  · rw [ofBinary64_of_isFinite finite]
    exact .number finite
  · rw [Binary64.isFinite_iff, Bool.not_eq_false] at finite
    rw [ofBinary64, if_pos finite]
    exact .null

/-- The number that a whole number of 64 bits stands for is finite. -/
lemma isFinite_of_binary64? {v : Json} {x : Binary64} (value : v.IsValue)
    (read : v.binary64? = some x) : x.IsFinite := by
  cases value with
  | number finite =>
    cases read
    exact finite
  | @integer n low high =>
    cases read
    have below : twoTo 63 < twoTo 64 := by decide
    have bits : n.natAbs < twoTo 64 := by omega
    have few : 64 + Binary64.unitExponent ≤ 2097 := by decide
    apply Binary64.isFinite_nearest _ few
    rw [Nat.div_one, twoTo_add]
    exact Nat.mul_lt_mul_of_pos_right bits (twoTo_pos _)
  | null | bool | string | array | object => cases read

/-! ## Fields -/

variable {names : List String} {openEnded : Bool} {fields : List (String × Json)}
  {slots : List (Option Json)} {v : Json}

/-- What stands under a name in an object is the value of one of its fields. -/
lemma mem_of_field? {name : String} (found : field? name fields = some v) : (name, v) ∈ fields := by
  obtain ⟨⟨given, w⟩, at_name, rfl⟩ := Option.map_eq_some_iff.1 found
  have same : given = name := by simpa using List.find?_some at_name
  subst same
  exact List.mem_of_find?_eq_some at_name

/-- The fields of a value are values. -/
lemma IsValue.slot (value : v.IsValue) (read : v.slots? names openEnded = some slots) :
    ∀ w, some w ∈ slots → w.IsValue := by
  intro w mem
  cases value with
  | @object fields _ values =>
    cases read
    obtain ⟨name, -, found⟩ := List.mem_map.1 mem
    exact values _ (mem_of_field? found)
  | @array items values =>
    have among : some w ∈ items.map some → w.IsValue := by
      intro mem
      obtain ⟨item, mem, same⟩ := List.mem_map.1 mem
      cases same
      exact values w mem
    rw [slots?] at read
    split at read
    · cases read
      exact among mem
    · split at read
      · cases read
        rcases List.mem_append.1 mem with given | left_out
        · exact among given
        · cases List.mem_singleton.1 left_out
      · cases read
  | null | bool | integer | number | string => cases read

/-- What holds of all that is read from values holds of a required field. -/
lemma of_required {α : Type} {read? : Json → Option α} {P : α → Prop} {slot : Option Json} {x : α}
    (each : ∀ {v x}, v.IsValue → read? v = some x → P x)
    (values : ∀ w, some w ∈ slots → w.IsValue) (mem : slot ∈ slots)
    (read : required read? slot = some x) : P x := by
  obtain ⟨w, rfl, read⟩ := Option.bind_eq_some_iff.1 read
  exact each (values w mem) read

/-- What holds of all that is read from values holds of an optional field that is there. -/
lemma of_optional {α : Type} {read? : Json → Option α} {P : α → Prop} {slot : Option Json}
    {o : Option α} (each : ∀ {v x}, v.IsValue → read? v = some x → P x)
    (values : ∀ w, some w ∈ slots → w.IsValue) (mem : slot ∈ slots)
    (read : optional read? slot = some o) : ∀ x ∈ o, P x := by
  rintro x rfl
  cases slot with
  | none => cases read
  | some w =>
    replace read : nullable? read? w = some (some x) := read
    unfold nullable? at read
    split at read
    · cases read
    · obtain ⟨y, read, same⟩ := Option.map_eq_some_iff.1 read
      cases same
      exact each (values _ mem) read

lemma isValue_ofOption {α : Type} {write : α → Json} (value : ∀ x, (write x).IsValue)
    (o : Option α) : (ofOption write o).IsValue := by
  cases o with
  | none => exact .null
  | some x => exact value x

/-- Something or nothing is read back if null stands for nothing only. -/
lemma optional_ofOption {α : Type} (write : α → Json) {read : Json → Option α} {o : Option α}
    (full : ∀ x ∈ o, write x ≠ .null) (back : ∀ x ∈ o, read (write x) = some x) :
    optional read (some (ofOption write o)) = some o := by
  cases o with
  | none => rfl
  | some x =>
    rw [ofOption, optional, nullable?]
    · rw [back x rfl]
      rfl
    · exact full x rfl

lemma items?_map {α : Type} (write : α → Json) {read : Json → Option α}
    (back : ∀ x, read (write x) = some x) (xs : List α) :
    items? read (xs.map write) = some xs := by
  induction xs with
  | nil => rfl
  | cons x xs ih => rw [List.map_cons, items?, back, ih]

lemma field?_cons (name given : String) (v : Json) (fields : List (String × Json)) :
    field? name ((given, v) :: fields) = if given = name then some v else field? name fields := by
  by_cases same : given = name <;> simp [field?, same]

/-- Where no name occurs twice, the order of the fields makes no difference. -/
lemma field?_of_perm {fields' : List (String × Json)} (unique : (fields.map Prod.fst).Nodup)
    (perm : fields.Perm fields') (name : String) : field? name fields = field? name fields' := by
  simp only [field?, beq_eq_decide]
  rw [find?_key_of_perm Prod.fst unique perm]

/-- The first values of a row stand under the first names, and nothing under the others. -/
lemma map_field?_zip {items : List Json} (unique : names.Nodup)
    (le : items.length ≤ names.length) :
    names.map (field? · (names.zip items)) =
      items.map some ++ List.replicate (names.length - items.length) none := by
  induction names generalizing items with
  | nil =>
    obtain rfl : items = [] := List.length_eq_zero_iff.1 (Nat.le_zero.1 le)
    rfl
  | cons name names ih =>
    rw [List.nodup_cons] at unique
    cases items with
    | nil =>
      rw [List.zip_nil_right]
      exact List.map_const' ..
    | cons item items =>
      have others : ∀ other ∈ names, field? other ((name, item) :: names.zip items) =
          field? other (names.zip items) := by
        intro other mem
        rw [field?_cons, if_neg]
        rintro rfl
        exact unique.1 mem
      rw [List.zip_cons_cons, List.map_cons, List.map_congr_left others,
        ih unique.2 (Nat.le_of_succ_le_succ le), field?_cons, if_pos rfl, List.map_cons,
        List.cons_append, List.length_cons, List.length_cons, Nat.add_sub_add_right]

/-- The shapes of a record that a reader does not tell apart. -/
structure Loose {α : Type} (names : List String) (openEnded : Bool) (read? : Json → Option α) :
    Prop where
  /-- The order of the fields is not looked at. -/
  order : ∀ fields fields', (fields.map Prod.fst).Nodup → fields.Perm fields' →
    read? (.object fields) = read? (.object fields')
  /-- Nor are fields with other names. -/
  others : ∀ name v fields, name ∉ names →
    read? (.object ((name, v) :: fields)) = read? (.object fields)
  /-- The names may be left out, and the last field with them if the record can do without it. -/
  row : ∀ items, items.length = names.length ∨ openEnded = true ∧ items.length + 1 = names.length →
    read? (.array items) = read? (.object (names.zip items))

/-- So is any reader that sees no more than the fields. -/
lemma loose_of_slots {α : Type} {read? : Json → Option α} (unique : names.Nodup)
    (sees : ∀ v w, slots? names openEnded v = slots? names openEnded w → read? v = read? w) :
    Loose names openEnded read? := by
  constructor
  case order =>
    intro fields fields' different perm
    apply sees
    rw [slots?, slots?]
    exact congrArg some (List.map_congr_left fun name _ => field?_of_perm different perm name)
  case others =>
    intro name v fields unknown
    apply sees
    rw [slots?, slots?]
    refine congrArg some (List.map_congr_left fun known mem => ?_)
    rw [field?_cons, if_neg]
    rintro rfl
    exact unknown mem
  case row =>
    intro items fits
    apply sees
    rw [slots?, slots?]
    rcases fits with whole | ⟨open_ended, one_less⟩
    · rw [if_pos whole, map_field?_zip unique (Nat.le_of_eq whole), whole, Nat.sub_self]
      exact congrArg some (List.append_nil _).symm
    · have less : items.length ≤ names.length := by omega
      have left_out : names.length - items.length = 1 := by omega
      rw [if_neg (by omega), if_pos ⟨open_ended, one_less⟩, map_field?_zip unique less, left_out]
      rfl

end Json

/-! ## Records -/

open Json

lemma Endpoint.faithful : Faithful Endpoint.toJson Endpoint.ofJson? fun _ => True := by
  refine faithful_of_finite (fun e => .string _) (fun e _ => ?_) (fun _ _ _ _ => trivial)
  cases e <;> rfl

lemma Status.faithful : Faithful Status.toJson Status.ofJson? fun _ => True := by
  refine faithful_of_finite (fun s => .string _) (fun s _ => ?_) (fun _ _ _ _ => trivial)
  cases s <;> rfl

lemma Source.faithful : Faithful Source.toJson Source.ofJson? fun _ => True := by
  refine faithful_of_finite (fun s => .string _) (fun s _ => ?_) (fun _ _ _ _ => trivial)
  cases s <;> rfl

lemma Outcome.faithful : Faithful Outcome.toJson Outcome.ofJson? fun _ => True := by
  refine faithful_of_finite (fun o => ?_) (fun o _ => ?_) (fun _ _ _ _ => trivial)
  · refine .object (by simp) ?_
    simp only [List.forall_mem_cons]
    exact ⟨Status.faithful.value _, .bool _, .bool _, .bool _, List.forall_mem_nil _⟩
  · have slots : o.toJson.slots? ["status", "retriable", "rate_limited", "crashed"] false =
        some [some o.status.toJson, some (.bool o.retriable), some (.bool o.rateLimited),
          some (.bool o.crashed)] := rfl
    rw [ofJson?, slots]
    simp only [required, Option.bind_some, Status.faithful.back o.status trivial, bool?]
    rfl

lemma Target.faithful : Faithful Target.toJson Target.ofJson? fun _ => True := by
  refine faithful_of_finite (fun t => ?_) (fun t _ => ?_) (fun _ _ _ _ => trivial)
  · have leading : ∀ item ∈ t.leading.map Json.string, item.IsValue := by
      intro item mem
      obtain ⟨s, -, rfl⟩ := List.mem_map.1 mem
      exact .string s
    refine .object (by simp) ?_
    simp only [List.forall_mem_cons]
    exact ⟨.string _, .array leading, List.forall_mem_nil _⟩
  · have slots : t.toJson.slots? ["program", "prefix"] true =
        some [some (.string t.program), some (.array (t.leading.map .string))] := rfl
    have leading : items? string? (t.leading.map .string) = some t.leading :=
      items?_map .string (fun _ => rfl) t.leading
    rw [ofJson?, slots]
    simp only [required, Option.bind_some, string?, list?, leading]
    rfl

/-- All five numbers are finite. -/
structure Timing.IsFinite (t : Timing) : Prop where
  avg : t.avg.IsFinite
  p50 : t.p50.IsFinite
  p95 : t.p95.IsFinite
  min : t.min.IsFinite
  max : t.max.IsFinite

/-- Timings that are read from values are finite. -/
lemma Timing.isFinite_of_ofJson? {v : Json} {t : Timing} (value : v.IsValue)
    (read : Timing.ofJson? v = some t) : t.IsFinite := by
  unfold ofJson? at read
  split at read
  · next slots =>
    have values := value.slot slots
    simp only [Option.bind_eq_bind, Option.bind_eq_some_iff, Option.pure_def,
      Option.some.injEq] at read
    obtain ⟨avg, at_avg, p50, at_p50, p95, at_p95, min, at_min, max, at_max, rfl⟩ := read
    constructor
    case avg => exact of_required isFinite_of_binary64? values (by simp) at_avg
    case p50 => exact of_required isFinite_of_binary64? values (by simp) at_p50
    case p95 => exact of_required isFinite_of_binary64? values (by simp) at_p95
    case min => exact of_required isFinite_of_binary64? values (by simp) at_min
    case max => exact of_required isFinite_of_binary64? values (by simp) at_max
  · cases read

lemma Timing.faithful : Faithful Timing.toJson Timing.ofJson? Timing.IsFinite := by
  refine faithful_of_finite (fun t => ?value) (fun t finite => ?back)
    (fun v t value read => isFinite_of_ofJson? value read)
  case value =>
    refine .object (by simp) ?_
    simp only [List.forall_mem_cons]
    exact ⟨isValue_ofBinary64 _, isValue_ofBinary64 _, isValue_ofBinary64 _, isValue_ofBinary64 _,
      isValue_ofBinary64 _, List.forall_mem_nil _⟩
  case back =>
    have slots : t.toJson.slots? ["avg", "p50", "p95", "min", "max"] false =
        some [some (ofBinary64 t.avg), some (ofBinary64 t.p50), some (ofBinary64 t.p95),
          some (ofBinary64 t.min), some (ofBinary64 t.max)] := rfl
    rw [ofJson?, slots]
    simp only [required, Option.bind_some, binary64?_ofBinary64 finite.avg,
      binary64?_ofBinary64 finite.p50, binary64?_ofBinary64 finite.p95,
      binary64?_ofBinary64 finite.min, binary64?_ofBinary64 finite.max]
    rfl

namespace Soak

/-- The duration is finite, if there is one. -/
def Iteration.IsFinite (i : Iteration) : Prop := ∀ x ∈ i.seconds, x.IsFinite

lemma Iteration.faithful : Faithful Iteration.toJson Iteration.ofJson? Iteration.IsFinite := by
  refine faithful_of_finite (fun i => ?value) (fun i finite => ?back)
    (fun v i value read => ?finite)
  case value =>
    refine .object (by simp) ?_
    simp only [List.forall_mem_cons]
    exact ⟨isValue_uint32 _, isValue_ofOption isValue_int32 _,
      isValue_ofOption isValue_ofBinary64 _, Outcome.faithful.value _, List.forall_mem_nil _⟩
  case back =>
    have slots : i.toJson.slots? ["index", "exit_code", "duration_secs", "outcome"] false =
        some [some (ofNat i.index.toNat),
          some (ofOption (fun c : Int32 => Json.integer c.toInt) i.exitCode),
          some (ofOption ofBinary64 i.seconds), some i.outcome.toJson] := rfl
    have exitCode := optional_ofOption (o := i.exitCode) (fun c : Int32 => Json.integer c.toInt)
      (fun _ _ => by simp) (fun c _ => int32?_integer c)
    have seconds := optional_ofOption (o := i.seconds) ofBinary64
      (fun x mem => by simp [ofBinary64_of_isFinite (finite x mem)])
      (fun x mem => binary64?_ofBinary64 (finite x mem))
    rw [ofJson?, slots]
    simp only [required, Option.bind_some, uint32?_ofNat, exitCode, seconds,
      Outcome.faithful.back i.outcome trivial]
    rfl
  case finite =>
    unfold ofJson? at read
    split at read
    · next slots =>
      have values := value.slot slots
      simp only [Option.bind_eq_bind, Option.bind_eq_some_iff, Option.pure_def,
        Option.some.injEq] at read
      obtain ⟨index, -, exitCode, -, seconds, at_seconds, outcome, -, rfl⟩ := read
      exact of_optional isFinite_of_binary64? values (by simp) at_seconds
    · cases read

/-- The timing is finite. -/
def Summary.IsFinite (s : Summary) : Prop := s.timing.IsFinite

lemma Summary.faithful : Faithful Summary.toJson Summary.ofJson? Summary.IsFinite := by
  refine faithful_of_finite (fun s => ?value) (fun s finite => ?back)
    (fun v s value read => ?finite)
  case value =>
    refine .object (by simp) ?_
    simp only [List.forall_mem_cons]
    exact ⟨.string _, isValue_uint32 _, isValue_uint32 _, isValue_uint32 _, isValue_uint32 _,
      isValue_uint32 _, isValue_ofNat s.samples.toNat_lt, Timing.faithful.value _,
      List.forall_mem_nil _⟩
  case back =>
    have slots : s.toJson.slots? ["command", "iterations", "successes", "rate_limits",
        "retriable_seen", "crashes", "samples", "timing"] false =
        some [some (.string s.command), some (ofNat s.iterations.toNat),
          some (ofNat s.successes.toNat), some (ofNat s.rateLimits.toNat),
          some (ofNat s.retriableSeen.toNat), some (ofNat s.crashes.toNat),
          some (ofNat s.samples.toNat), some s.timing.toJson] := rfl
    rw [ofJson?, slots]
    simp only [required, Option.bind_some, string?, uint32?_ofNat, uint64?_ofNat,
      Timing.faithful.back s.timing finite]
    rfl
  case finite =>
    unfold ofJson? at read
    split at read
    · next slots =>
      have values := value.slot slots
      simp only [Option.bind_eq_bind, Option.bind_eq_some_iff, Option.pure_def,
        Option.some.injEq] at read
      obtain ⟨_, -, _, -, _, -, _, -, _, -, _, -, _, -, timing, at_timing, rfl⟩ := read
      have finite : timing.IsFinite :=
        of_required Timing.isFinite_of_ofJson? values (by simp) at_timing
      exact finite
    · cases read

end Soak

/-- Every kind of record is read from a value without regard to how its fields are arranged. -/
lemma records_loose :
    Loose ["status", "retriable", "rate_limited", "crashed"] false Outcome.ofJson? ∧
    Loose ["program", "prefix"] true Target.ofJson? ∧
    Loose ["avg", "p50", "p95", "min", "max"] false Timing.ofJson? ∧
    Loose ["index", "exit_code", "duration_secs", "outcome"] false Soak.Iteration.ofJson? ∧
    Loose ["command", "iterations", "successes", "rate_limits", "retriable_seen", "crashes",
      "samples", "timing"] false Soak.Summary.ofJson? := by
  refine ⟨loose_of_slots (by simp) fun v w same => ?_, loose_of_slots (by simp) fun v w same => ?_,
    loose_of_slots (by simp) fun v w same => ?_, loose_of_slots (by simp) fun v w same => ?_,
    loose_of_slots (by simp) fun v w same => ?_⟩
  · rw [Outcome.ofJson?, Outcome.ofJson?, same]
  · rw [Target.ofJson?, Target.ofJson?, same]
  · rw [Timing.ofJson?, Timing.ofJson?, same]
  · rw [Soak.Iteration.ofJson?, Soak.Iteration.ofJson?, same]
  · rw [Soak.Summary.ofJson?, Soak.Summary.ofJson?, same]

/--
Records of every kind are written as values that are read back as the same record, as long as their
numbers are finite. Whatever value a record was read from, it is written so that it is read again,
and a value that was read and written stays as it is when that is done once more. A record may be read
from a row or from an object, whose fields may come in any order and with others between them.
-/
theorem records_faithful :
    Faithful Endpoint.toJson Endpoint.ofJson? (fun _ => True) ∧
    Faithful Status.toJson Status.ofJson? (fun _ => True) ∧
    Faithful Source.toJson Source.ofJson? (fun _ => True) ∧
    Faithful Outcome.toJson Outcome.ofJson? (fun _ => True) ∧
    Faithful Target.toJson Target.ofJson? (fun _ => True) ∧
    Faithful Timing.toJson Timing.ofJson? Timing.IsFinite ∧
    Faithful Soak.Iteration.toJson Soak.Iteration.ofJson? Soak.Iteration.IsFinite ∧
    Faithful Soak.Summary.toJson Soak.Summary.ofJson? Soak.Summary.IsFinite ∧
    Loose ["status", "retriable", "rate_limited", "crashed"] false Outcome.ofJson? ∧
    Loose ["program", "prefix"] true Target.ofJson? ∧
    Loose ["avg", "p50", "p95", "min", "max"] false Timing.ofJson? ∧
    Loose ["index", "exit_code", "duration_secs", "outcome"] false Soak.Iteration.ofJson? ∧
    Loose ["command", "iterations", "successes", "rate_limits", "retriable_seen", "crashes",
      "samples", "timing"] false Soak.Summary.ofJson? :=
  ⟨Endpoint.faithful, Status.faithful, Source.faithful, Outcome.faithful, Target.faithful,
    Timing.faithful, Soak.Iteration.faithful, Soak.Summary.faithful, records_loose⟩

/-- A summary as a row, with its timing in another order and in whole numbers. -/
def looseSummary : Json :=
  .array [.string "balances", .integer 2, .integer 1, .integer 0, .integer 1, .integer 1,
    .integer 1,
    .object [("max", .integer 3), ("unit", .string "s"), ("min", .integer 3), ("p95", .integer 3),
      ("p50", .integer 3), ("avg", .number ⟨0x4008000000000000⟩)]]

/-- The summary that it stands for. -/
def tightSummary : Soak.Summary :=
  ⟨"balances", 2, 1, 0, 1, 1, 1, ⟨.ofNat 3, .ofNat 3, .ofNat 3, .ofNat 3, .ofNat 3⟩⟩

/-- An iteration without a duration, and with its status as an object. -/
def looseIteration : Json :=
  .object [("outcome", .array [.object [("TIMEOUT", .null)], .bool false, .bool false, .bool true]),
    ("index", .integer 3), ("exit_code", .null)]

/-- The iteration that it stands for. -/
def tightIteration : Soak.Iteration := ⟨3, none, none, ⟨.timeout, false, false, true⟩⟩

lemma isValue_looseSummary : looseSummary.IsValue := by
  have word {n : Int} (low : 0 ≤ n) (high : n ≤ 3) : (Json.integer n).IsValue := by
    have fits : 3 < twoTo 64 := by decide
    exact .integer (by omega) (by omega)
  have three : (Json.number ⟨0x4008000000000000⟩).IsValue := .number (by decide +kernel)
  refine .array ?_
  simp only [List.forall_mem_cons]
  refine ⟨.string _, word (by decide) (by decide), word (by decide) (by decide),
    word (by decide) (by decide), word (by decide) (by decide), word (by decide) (by decide),
    word (by decide) (by decide), .object (by simp) ?_, List.forall_mem_nil _⟩
  simp only [List.forall_mem_cons]
  exact ⟨word (by decide) (by decide), .string _, word (by decide) (by decide),
    word (by decide) (by decide), word (by decide) (by decide), three, List.forall_mem_nil _⟩

lemma isValue_looseIteration : looseIteration.IsValue := by
  refine .object (by simp) ?_
  simp only [List.forall_mem_cons]
  refine ⟨.array ?_, isValue_ofNat (n := 3) (by decide), .null, List.forall_mem_nil _⟩
  simp only [List.forall_mem_cons]
  refine ⟨.object (by simp) ?_, .bool _, .bool _, .bool _, List.forall_mem_nil _⟩
  simp only [List.forall_mem_cons]
  exact ⟨.null, List.forall_mem_nil _⟩

/-- A summary, an iteration and a target are written and read again that were read from values of
unusual shapes. -/
theorem records_faithful_loose :
    (looseSummary.IsValue ∧ Soak.Summary.ofJson? looseSummary = some tightSummary ∧
      Soak.Summary.ofJson? tightSummary.toJson = some tightSummary) ∧
    (looseIteration.IsValue ∧ Soak.Iteration.ofJson? looseIteration = some tightIteration ∧
      tightIteration.IsFinite ∧
      Soak.Iteration.ofJson? tightIteration.toJson = some tightIteration) ∧
    Target.ofJson? (.array [.string "sh"]) = some (.direct "sh") ∧
      Target.ofJson? (Target.direct "sh").toJson = some (.direct "sh") := by
  obtain ⟨-, -, -, -, target, -, iteration, summary, -⟩ := records_faithful
  have read_summary : Soak.Summary.ofJson? looseSummary = some tightSummary := by decide +kernel
  have read_iteration : Soak.Iteration.ofJson? looseIteration = some tightIteration := by
    decide +kernel
  have untimed : tightIteration.IsFinite := nofun
  refine ⟨⟨isValue_looseSummary, read_summary,
      summary.again _ _ isValue_looseSummary read_summary⟩,
    ⟨isValue_looseIteration, read_iteration, untimed, iteration.back _ untimed⟩,
    by decide +kernel, target.back _ trivial⟩

end SoakRig
