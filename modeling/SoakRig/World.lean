import SoakRig.Duration
import SoakRig.FileTree
import SoakRig.Log.Record

/-!
# The world around a program

Files, the time that has passed and the time of day, and what has been reported.
-/

namespace SoakRig

/-- What a program runs in. -/
structure World where
  files : FileTree
  /-- The time of day in milliseconds, by the time that has passed. -/
  clock : Duration → Int
  /-- The time that has passed. -/
  elapsed : Duration
  /-- What has been reported, newest first. -/
  journal : List Log.Record

namespace World

/-- A world in which nothing has happened and the clock stands still. -/
def still (files : FileTree) (now : Int) : World := ⟨files, fun _ => now, .zero, []⟩

/-- The time of day in milliseconds. -/
def now (w : World) : Int := w.clock w.elapsed

/-- The world after one more report. -/
def report (w : World) (r : Log.Record) : World := { w with journal := r :: w.journal }

/-- The world after some time. -/
def pass (w : World) (d : Duration) : World :=
  { w with elapsed := ⟨w.elapsed.nanoseconds + d.nanoseconds⟩ }

/-- The longest pause that is kept: thirty years of 365 days. -/
def longestPause : Duration := .ofWholeSeconds (30 * 365 * 24 * 60 * 60)

/-- A pause as it is kept: in whole milliseconds that cover it, up to the longest one. -/
def keptPause (d : Duration) : Duration :=
  .ofMilliseconds (min d.coveringMilliseconds longestPause.milliseconds)

/-- The world after a pause. -/
def sleep (w : World) (d : Duration) : World := w.pass (keptPause d)

/-- The reports in the order they were made. -/
def records (w : World) : List Log.Record := w.journal.reverse

end World

/-- What takes the text that a program writes: all of it, or so many bytes. -/
structure Sink where
  /-- The bytes that it still takes, if there is a bound. -/
  room : Option Nat
  /-- Why it takes no more. -/
  refusal : SystemError
  /-- The bytes that it took, newest first. -/
  taken : List UInt8

namespace Sink

/-- Takes everything. -/
def unbounded : Sink := ⟨none, .other "", []⟩

/-- Takes so many bytes. -/
def bounded (room : Nat) (refusal : SystemError) : Sink := ⟨some room, refusal, []⟩

/-- The bytes that it took. -/
def bytes (s : Sink) : List UInt8 := s.taken.reverse

/-- Offers bytes. Of what does not fit, the part that does is taken. -/
def offer (s : Sink) (bytes : List UInt8) : Except SystemError Unit × Sink :=
  match s.room with
  | none => (.ok (), { s with taken := bytes.reverse ++ s.taken })
  | some room =>
    if bytes.length ≤ room then
      (.ok (), { s with room := some (room - bytes.length), taken := bytes.reverse ++ s.taken })
    else
      (.error s.refusal,
        { s with room := some 0, taken := (bytes.take room).reverse ++ s.taken })

@[simp] theorem offer_nil (s : Sink) : s.offer [] = (.ok (), s) := by
  obtain ⟨room, refusal, taken⟩ := s
  cases room <;> simp [offer]

/-- Bytes may as well be offered in two parts, the second one only if the first one was taken. -/
theorem offer_append (s : Sink) (bytes more : List UInt8) :
    s.offer (bytes ++ more) =
      match s.offer bytes with
      | (.error e, s') => (.error e, s')
      | (.ok (), s') => s'.offer more := by
  obtain ⟨room, refusal, taken⟩ := s
  cases room with
  | none => simp [offer]
  | some room =>
    by_cases first : bytes.length ≤ room
    · by_cases both : bytes.length + more.length ≤ room
      · have second : more.length ≤ room - bytes.length := by omega
        simp [offer, first, both, second, Nat.sub_add_eq]
      · have second : ¬more.length ≤ room - bytes.length := by omega
        simp [offer, first, both, second, List.take_append, List.take_of_length_le first]
    · have both : ¬bytes.length + more.length ≤ room := by omega
      have none_left : room - bytes.length = 0 := by omega
      simp [offer, first, both, List.take_append, none_left]

/-- Offers a text. -/
def write (s : Sink) (text : String) : Except SystemError Unit × Sink :=
  s.offer (Text.utf8 text.toList)

/-- Offers texts one after another, up to the first one that is refused. -/
def writeAll (s : Sink) : List String → Except SystemError Unit × Sink
  | [] => (.ok (), s)
  | text :: texts =>
    match s.write text with
    | (.error e, s') => (.error e, s')
    | (.ok (), s') => s'.writeAll texts

/-- However a text is cut into pieces, it is taken as if it were offered whole. -/
theorem writeAll_eq_write_join (s : Sink) (texts : List String) :
    s.writeAll texts = s.write (String.join texts) := by
  induction texts generalizing s with
  | nil => simp [writeAll, write, Text.utf8]
  | cons text texts ih =>
    have parts : s.write (String.join (text :: texts)) =
        match s.write text with
        | (.error e, s') => (.error e, s')
        | (.ok (), s') => s'.write (String.join texts) := by
      simp only [write, String.join_cons, String.toList_append, Text.utf8_append, offer_append]
    simp only [writeAll, parts, ih]

end Sink

end SoakRig
