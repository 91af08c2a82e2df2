import Mathlib.Data.List.Induction
import Lockstep.Proofs.Bridge.Mapped
import Lockstep.Proofs.Text.Cut

/-! Whose buffer a crash is written to.

Reporters come and go in any order. Whoever goes disarms only its own buffer, so that no older
one takes a newer one's buffer away; and no buffer is written to after its reporter went.
-/

set_option autoImplicit false

namespace Lockstep.Bridge

open Message Text Utf8

def Crash.text? : Crash → Option String
  | .panic text => some (panicText text)
  | .signal number => signalText? number

/-- A buffer begins with as much of a text as leaves room for a NUL, and with that NUL. -/
structure Reports (buffer : FaultBuffer) (kept text : String) : Prop where
  longest : LongestPrefix (faultCapacity - 1) kept text
  ended : encode kept ++ [0] <+: buffer.toList
  read : terminatedBytes buffer.toList = encode (beforeNul kept)

structure CrashSite.Crashed (before after : CrashSite) (c : Crash) : Prop where
  target : after.target = before.target
  elsewhere : ∀ b, before.target ≠ some b → after.buffers b = before.buffers b
  silent : before.target = none ∨ c.text? = none → after = before
  reports : ∀ b text, before.target = some b → c.text? = some text →
    ∃ kept, Reports (after.buffers b) kept text ∧ after.text b = beforeNul kept

/-- What becomes of the crash site of a process: someone arms a buffer, one of the reporters, by
the order in which they were armed, is dropped, or there is a crash. -/
inductive Incident where
  | arm (buffer : Nat)
  | drop (reporter : Nat)
  | crash (c : Crash)

def Incident.arms : Incident → List Nat
  | arm buffer => [buffer]
  | _ => []

/-- The buffer of the reporter that came last, unless it was dropped. -/
def newest? (reporters : List (Option Reporter)) : Option Nat :=
  reporters.getLast?.join.map (·.buffer)

/-- A crash site and its reporters as they came; one that was dropped leaves its place empty. -/
structure Roster where
  site : CrashSite
  reporters : List (Option Reporter)

namespace Roster

def start (buffers : Nat → FaultBuffer) : Roster := ⟨⟨buffers, none⟩, []⟩

def after (roster : Roster) : Incident → Roster
  | .arm buffer =>
    let (reporter, site) := roster.site.arm buffer
    ⟨site, roster.reporters ++ [some reporter]⟩
  | .drop i =>
    match roster.reporters[i]? with
    | some (some reporter) => ⟨roster.site.disarm reporter, roster.reporters.set i none⟩
    | _ => roster
  | .crash c => { roster with site := roster.site.crash c }

def run (roster : Roster) (incidents : List Incident) : Roster := incidents.foldl after roster

/-- How a crash site stands after some buffers were armed. Only the last of them can be
the target. -/
structure Sound (roster : Roster) (armed : List Nat) : Prop where
  length : roster.reporters.length = armed.length
  holds : ∀ (i : Nat) (r : Reporter), roster.reporters[i]? = some (some r) →
    armed[i]? = some r.buffer
  last : ∀ b, roster.site.target = some b → newest? roster.reporters = some b
  newest : armed.Nodup → ∀ b, newest? roster.reporters = some b → roster.site.target = some b

end Roster

-- What is written.

theorem reports_of_front {buffer : FaultBuffer} {kept text : String}
    (longest : LongestPrefix (faultCapacity - 1) kept text)
    (ended : encode kept ++ [0] <+: buffer.toList) : Reports buffer kept text := by
  refine ⟨longest, ended, ?_⟩
  obtain ⟨rest, whole⟩ := ended
  have stops : terminatedBytes ([0] ++ rest) = [] := rfl
  rw [← whole, List.append_assoc, terminatedBytes_append _ stops, terminatedBytes,
    takeWhile_encode_beforeNul]

section Padded

variable {kept text : String} (longest : LongestPrefix (faultCapacity - 1) kept text)

include longest

theorem room_for_nul : (encode kept).length < faultCapacity := by
  have short := longest.fits
  have some : 0 < faultCapacity := by decide
  rw [length_encode]
  omega

theorem reports_padded (more : List UInt8) :
    Reports (Wire.padded faultCapacity (encode kept ++ [0] ++ more)) kept text := by
  have fits : (encode kept ++ [0]).length ≤ faultCapacity := by
    rw [List.length_append]
    exact room_for_nul longest
  apply reports_of_front longest
  rw [Wire.toList_padded, List.take_append, List.take_of_length_le fits, List.append_assoc]
  exact List.prefix_append ..

theorem reports_padded_zeros : Reports (Wire.padded faultCapacity (encode kept)) kept text := by
  have room := room_for_nul longest
  obtain ⟨count, zeros⟩ := Nat.exists_eq_add_of_lt room
  apply reports_of_front longest
  refine ⟨List.replicate count 0, ?_⟩
  rw [Wire.toList_padded, List.take_of_length_le (Nat.le_of_lt room), List.append_assoc,
    show faultCapacity - (encode kept).length = count + 1 by omega, List.replicate_succ,
    List.singleton_append]

end Padded

namespace CrashSite

variable {s : CrashSite} {c : Crash}

theorem target_crash (s : CrashSite) (c : Crash) : (s.crash c).target = s.target := by
  cases c with
  | panic text =>
    simp only [crash, panic]
    split <;> rfl
  | signal number =>
    simp only [crash, signal]
    split <;> rfl

theorem crash_of_none (nothing : s.target = none ∨ c.text? = none) : s.crash c = s := by
  cases c with
  | panic text =>
    obtain nowhere | silent := nothing
    · simp only [crash, panic, nowhere]
    · cases silent
  | signal number =>
    obtain nowhere | silent := nothing
    · simp only [crash, signal, nowhere]
    · have silent : signalText? number = none := silent
      cases target : s.target <;> simp only [crash, signal, target, silent]

theorem reports_crash {b : Nat} {text : String} (target : s.target = some b)
    (said : c.text? = some text) : ∃ kept, Reports ((s.crash c).buffers b) kept text := by
  obtain ⟨kept, longest, bytes⟩ := keptBytes_spec (faultCapacity - 1) text
  have bytes : keptBytes faultCapacity text = encode kept := bytes
  refine ⟨kept, ?_⟩
  cases c with
  | panic message =>
    have said : panicText message = text := Option.some.inj said
    have written : (s.crash (.panic message)).buffers b =
        Wire.padded faultCapacity (encode kept) := by
      simp only [crash, panic, target, said, bytes, modify, if_true]
    rw [written]
    exact reports_padded_zeros longest
  | signal number =>
    have said : signalText? number = some text := said
    have written : (s.crash (.signal number)).buffers b = Wire.padded faultCapacity
        (encode kept ++ [0] ++ (s.buffers b).toList.drop (encode kept ++ [0]).length) := by
      simp only [crash, signal, target, said, bytes, modify, if_true]
    rw [written]
    exact reports_padded longest _

theorem target_disarm_iff {r : Reporter} {b : Nat} :
    (s.disarm r).target = some b ↔ r.buffer ≠ b ∧ s.target = some b := by
  unfold disarm
  by_cases own : s.target = some r.buffer
  · simp [own]
  · rw [if_neg own]
    refine ⟨fun target => ⟨?_, target⟩, And.right⟩
    rintro rfl
    exact own target

theorem crashed (s : CrashSite) (c : Crash) : s.Crashed (s.crash c) c where
  target := target_crash s c
  elsewhere := fun _ other => crash_elsewhere s c other
  silent := crash_of_none
  reports := by
    intro b text target said
    obtain ⟨kept, reports⟩ := reports_crash target said
    exact ⟨kept, reports, by rw [CrashSite.text, reports.read, lossy_encode]⟩

end CrashSite

-- Who is written to.

section Newest

variable {reporters : List (Option Reporter)}

theorem newest?_append (reporters : List (Option Reporter)) (r : Reporter) :
    newest? (reporters ++ [some r]) = some r.buffer := by
  rw [newest?, List.getLast?_concat]
  rfl

theorem newest?_eq_some_iff {b : Nat} : newest? reporters = some b ↔
    ∃ r, reporters[reporters.length - 1]? = some (some r) ∧ r.buffer = b := by
  rw [newest?, Option.map_eq_some_iff, ← List.getLast?_eq_getElem?]
  simp only [Option.join_eq_some_iff]

/-- The newest reporter stays so until it is dropped itself. -/
theorem newest?_set_iff {i b : Nat} : newest? (reporters.set i none) = some b ↔
    i ≠ reporters.length - 1 ∧ newest? reporters = some b := by
  simp only [newest?_eq_some_iff, List.length_set, List.getElem?_set]
  by_cases last : i = reporters.length - 1
  · simp [last]
  · simp [last]

end Newest

namespace Roster

variable {roster : Roster} {armed : List Nat}

theorem Sound.start (buffers : Nat → FaultBuffer) : (start buffers).Sound [] := by
  constructor
  case length => rfl
  case holds => exact fun i r none => nomatch none
  case last => exact fun b none => nomatch none
  case newest => exact fun _ b none => nomatch none

theorem Sound.arm (sound : roster.Sound armed) (buffer : Nat) :
    (roster.after (.arm buffer)).Sound (armed ++ [buffer]) := by
  have newest : newest? (roster.after (.arm buffer)).reporters = some buffer :=
    newest?_append roster.reporters ⟨buffer⟩
  constructor
  case length => simp [Roster.after, sound.length]
  case holds =>
    intro i r held
    change (roster.reporters ++ [some ⟨buffer⟩])[i]? = some (some r) at held
    rw [List.getElem?_append] at held ⊢
    rw [← sound.length]
    split at held
    next inside => rw [if_pos inside, sound.holds i r held]
    next outside =>
      rw [if_neg outside]
      rw [List.getElem?_singleton] at held ⊢
      split at held
      next here =>
        cases held
        rw [if_pos here]
      next => cases held
  case last =>
    intro b target
    rw [newest]
    exact target
  case newest =>
    intro _ b last
    rw [newest] at last
    exact last

theorem Sound.drop (sound : roster.Sound armed) (i : Nat) :
    (roster.after (.drop i)).Sound armed := by
  simp only [Roster.after]
  split
  next r held =>
    have mine := sound.holds i r held
    constructor
    case length => rw [List.length_set, sound.length]
    case holds =>
      intro j other held'
      by_cases here : i = j
      · simp [List.getElem?_set, here] at held'
      · rw [List.getElem?_set_ne here] at held'
        exact sound.holds j other held'
    case last =>
      intro b target
      obtain ⟨other, target⟩ := CrashSite.target_disarm_iff.mp target
      have last := sound.last b target
      refine newest?_set_iff.mpr ⟨?_, last⟩
      -- The last reporter is dropped: then it is its buffer that was the target.
      rintro rfl
      obtain ⟨r', held', buffer⟩ := newest?_eq_some_iff.mp last
      rw [held] at held'
      cases held'
      exact other buffer
    case newest =>
      intro distinct b last
      obtain ⟨older, last⟩ := newest?_set_iff.mp last
      refine CrashSite.target_disarm_iff.mpr ⟨?_, sound.newest distinct b last⟩
      -- Another reporter with the same buffer is dropped: then it was armed twice.
      rintro rfl
      obtain ⟨r', held', buffer⟩ := newest?_eq_some_iff.mp last
      have theirs := sound.holds _ r' held'
      rw [buffer, ← mine] at theirs
      obtain ⟨inside, -⟩ := List.getElem?_eq_some_iff.mp mine
      exact older ((List.getElem?_inj inside distinct).mp theirs.symm)
  next => exact sound

theorem Sound.crash (sound : roster.Sound armed) (c : Crash) :
    (roster.after (.crash c)).Sound armed := by
  have target : (roster.after (.crash c)).site.target = roster.site.target :=
    roster.site.target_crash c
  exact ⟨sound.length, sound.holds, target ▸ sound.last, target ▸ sound.newest⟩

theorem Sound.after (sound : roster.Sound armed) (incident : Incident) :
    (roster.after incident).Sound (armed ++ incident.arms) := by
  cases incident with
  | arm buffer => exact sound.arm buffer
  | drop i => exact (List.append_nil armed).symm ▸ sound.drop i
  | crash c => exact (List.append_nil armed).symm ▸ sound.crash c

theorem sound_run (buffers : Nat → FaultBuffer) (incidents : List Incident) :
    ((start buffers).run incidents).Sound (incidents.flatMap Incident.arms) := by
  induction incidents using List.reverseRecOn with
  | nil => exact .start buffers
  | append_singleton incidents incident ih =>
    rw [Roster.run, List.foldl_append, List.flatMap_append, List.flatMap_singleton]
    exact ih.after incident

/-- Only a crash writes to a buffer, and only to the one that is the target. -/
theorem after_elsewhere (roster : Roster) (incident : Incident) {b : Nat}
    (other : (∀ c, incident ≠ .crash c) ∨ roster.site.target ≠ some b) :
    (roster.after incident).site.buffers b = roster.site.buffers b := by
  cases incident with
  | arm buffer => rfl
  | drop i =>
    simp only [Roster.after]
    split
    next r _ =>
      unfold CrashSite.disarm
      split <;> rfl
    next => rfl
  | crash c =>
    obtain calm | other := other
    · exact absurd rfl (calm c)
    · exact roster.site.crash_elsewhere c other

end Roster

/-- Whoever arms, is dropped and crashes in a process: a crash is written to the buffer of a
reporter that is there, or nowhere; and as long as no buffer is armed twice that is the newest
reporter, unless it was dropped. Nothing but a crash writes to a buffer, and nothing to any other.
What a crash leaves in the buffer is the longest part of its text that fits, and a NUL. -/
theorem crashes_reach_newest (buffers : Nat → FaultBuffer) (incidents : List Incident) :
    let roster := (Roster.start buffers).run incidents
    let armed := incidents.flatMap Incident.arms
    roster.reporters.length = armed.length ∧
    (∀ (i : Nat) (r : Reporter), roster.reporters[i]? = some (some r) →
      armed[i]? = some r.buffer) ∧
    (∀ b, roster.site.target = some b → ∃ r, some r ∈ roster.reporters ∧ r.buffer = b) ∧
    (armed.Nodup → roster.site.target = newest? roster.reporters) ∧
    (∀ incident b, (∀ c, incident ≠ .crash c) ∨ roster.site.target ≠ some b →
      (roster.after incident).site.buffers b = roster.site.buffers b) ∧
    ∀ c, roster.site.Crashed (roster.after (.crash c)).site c ∧
      (roster.after (.crash c)).reporters = roster.reporters := by
  intro roster armed
  have sound : roster.Sound armed := Roster.sound_run buffers incidents
  refine ⟨sound.length, sound.holds, ?alive, ?newest,
    fun incident b => roster.after_elsewhere incident, fun c => ⟨roster.site.crashed c, rfl⟩⟩
  case alive =>
    intro b target
    obtain ⟨r, held, buffer⟩ := newest?_eq_some_iff.mp (sound.last b target)
    exact ⟨r, List.mem_of_getElem? held, buffer⟩
  case newest =>
    intro distinct
    ext b
    exact ⟨sound.last b, sound.newest distinct b⟩

-- Of two reporters with one buffer the first that goes disarms it for the other as well.
example (buffers : Nat → FaultBuffer) :
    ((Roster.start buffers).run [.arm 1, .arm 1, .drop 0]).site.target = none := rfl

end Lockstep.Bridge
