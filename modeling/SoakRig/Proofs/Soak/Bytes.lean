import SoakRig.Execution
import SoakRig.Proofs.Soak.Counts
import SoakRig.Proofs.Text.Utf8

/-!
# Verdicts read off the bytes

What a target writes are bytes, and what is judged is their text, with ill-formed pieces replaced.
The markers are made of basic characters, so the text holds a marker exactly if the bytes do: the
verdict on a run that ended by itself can be read off its bytes and its exit code.
-/

namespace SoakRig

namespace Outcome

/-- The bytes of the marker stand in a row among the bytes. -/
def Held (marker : String) (bytes : List UInt8) : Prop := Text.utf8 marker.toList <:+: bytes

instance (marker : String) (bytes : List UInt8) : Decidable (Held marker bytes) :=
  inferInstanceAs (Decidable (_ <:+: _))

/-- The verdict is the one that the exit code and the bytes ask for. -/
structure ReadOff (exitCode : Int32) (bytes : List UInt8) (o : Outcome) : Prop where
  retriable : o.retriable = true ↔ Held retriableMarker bytes
  rateLimited : o.rateLimited = true ↔ Held rateLimitMarker bytes
  status : o.status =
    if Held rateLimitMarker bytes then .rateLimit else if exitCode = 0 then .ok else .fail
  crashed : o.crashed = true ↔ exitCode ≠ 0
  success : o.success = true ↔ exitCode = 0 ∧ ¬Held rateLimitMarker bytes

/-- A marker of basic characters is found in the text exactly if the bytes hold it. -/
lemma marked_decoded {marker : String} (basic : Text.IsBasic marker.toList) (bytes : List UInt8) :
    marked marker (String.ofList (Text.decodeReplacing bytes)) = decide (Held marker bytes) := by
  rw [Soak.marked_eq, String.toList_ofList, Bool.eq_iff_iff, decide_eq_true_iff,
    decide_eq_true_iff, Text.infix_decodeReplacing_iff basic, Held]

lemma isBasic_retriableMarker : Text.IsBasic retriableMarker.toList :=
  Text.isBasic_of_all (by decide)

lemma isBasic_rateLimitMarker : Text.IsBasic rateLimitMarker.toList :=
  Text.isBasic_of_all (by decide)

/-- The verdict on a text is read off the bytes that it was decoded from. -/
lemma readOff_classify (exitCode : Int32) (bytes : List UInt8) :
    ReadOff exitCode bytes
      (classify exitCode (String.ofList (Text.decodeReplacing bytes)) false) := by
  have retriable := marked_decoded isBasic_retriableMarker bytes
  have rateLimited := marked_decoded isBasic_rateLimitMarker bytes
  unfold classify
  dsimp only
  rw [retriable, rateLimited]
  have status : statusOf exitCode (decide (Held rateLimitMarker bytes)) false =
      if Held rateLimitMarker bytes then .rateLimit else if exitCode = 0 then .ok else .fail := by
    simp [statusOf]
  refine ⟨decide_eq_true_iff, decide_eq_true_iff, status, by simp, ?_⟩
  simp only [success, decide_eq_true_iff, status]
  by_cases limited : Held rateLimitMarker bytes
  · simp [limited]
  · by_cases zero : exitCode = 0 <;> simp [limited, zero]

end Outcome

/-- The bytes that were written to the common pipe, in the order of time. -/
def Execution.written (s : Shell.Session) : List UInt8 :=
  (s.writes.reverse.mergeSort fun a b => a.1 ≤ b.1).flatMap (·.2.2)

/--
Decoding can neither hide a marker nor make one. Whatever bytes a run writes, well formed or not,
the verdict on the iteration is read off the bytes and the exit code: it is marked for a retry, or
for a rate limit, exactly if the bytes of the marker stand in a row among them, and its status, its
crash and its success follow from that and the exit code. So it is for whatever a process writes.
-/
theorem outcome_readOff (index : UInt32) (duration : Duration) :
    (∀ exitCode bytes, Outcome.ReadOff exitCode bytes (Soak.Iteration.ofAttempt index
      (.completed exitCode (String.ofList (Text.decodeReplacing bytes)) duration)).outcome) ∧
    ∀ s : Shell.Session, Outcome.ReadOff (Execution.exitCode s) (Execution.written s)
      (Soak.Iteration.ofAttempt index
        (.completed (Execution.exitCode s) (Execution.output s) duration)).outcome :=
  ⟨Outcome.readOff_classify, fun _ => Outcome.readOff_classify _ _⟩

/-- A broken character right before a marker does not hide it. -/
example : (Outcome.classify 0 (String.ofList (Text.decodeReplacing
    (0xE2 :: 0x82 :: Text.utf8 "Retriable error".toList))) false).retriable = true :=
  (Outcome.readOff_classify 0 _).retriable.2 (by decide +kernel)

end SoakRig
