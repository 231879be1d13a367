import Mathlib.Data.List.Chain
import Mathlib.Data.Set.Insert
import Mathlib.Logic.Function.Basic
import Testbed.Proofs.Console.Dealings
/-!
# Logs on disk

What becomes of the files while recordings are looked after. A `Disk` is what the files hold by
their paths. A `Course` is what happens to it in the course of deeds: the deeds themselves, answered
as the files are, and in between the consoles, which write whatever they like at the ends of files
that are there. Only between the look at the size of a file and its removal does none of them write.

Two properties of deeds are carried along. `Careful` deeds remove a file only when they have just
found it empty. `Tidy held deeds kept` says that no empty file is left behind: those in `held` may
have been empty before the deeds, those in `kept` may be empty after them.

Main statements: `holds_of_careful`, what a file holds stays in it; `Tidy.append` and `Tidy.frame`,
by which tidy deeds are put together.
-/
namespace Testbed.Console

open Program

variable {ε : Type}

/-- What the files hold. -/
abbrev Disk := String → Option (List UInt8)

namespace Disk

/-- What happens to the files: a deed, or a console that writes to its log. -/
inductive Event (ε : Type)
  | deed (e : Exchange (Device.interface ε))
  | written (path : String) (bytes : List UInt8)

def Event.writes : Event ε → Bool
  | .written _ _ => true
  | .deed _ => false

def Event.removes : Event ε → Bool
  | .deed ⟨.removeFile _, _⟩ => true
  | _ => false

def Event.deed? : Event ε → Option (Exchange (Device.interface ε))
  | .deed e => some e
  | .written _ _ => none

/-- The files after an event. A log is opened for writing at its end, and made if it is not
there; what is written to a file that was removed is in no file. -/
def after (d : Disk) : Event ε → Disk
  | .written path bytes => Function.update d path ((d path).map (· ++ bytes))
  | .deed ⟨.openLog path, .ok _⟩ => Function.update d path (some ((d path).getD []))
  | .deed ⟨.removeFile path, .ok _⟩ => Function.update d path none
  | .deed _ => d

def through (d : Disk) (events : List (Event ε)) : Disk := events.foldl after d

/-- Operations on files that are there succeed, and those on others do not. -/
def Answered (d : Disk) : Event ε → Prop
  | .deed ⟨.fileSize path, a⟩ => Except.toOption a = (d path).map List.length
  | .deed ⟨.removeFile path, a⟩ => (Except.toOption a).isSome = (d path).isSome
  | _ => True

instance (d : Disk) : (e : Event ε) → Decidable (Answered d e)
  | .deed ⟨.fileSize path, a⟩ =>
    inferInstanceAs (Decidable (Except.toOption a = (d path).map List.length))
  | .deed ⟨.removeFile path, a⟩ =>
    inferInstanceAs (Decidable ((Except.toOption a).isSome = (d path).isSome))
  | .deed ⟨.hostOf _, _⟩ | .deed ⟨.launch _ _ _, _⟩ | .deed ⟨.process _, _⟩
  | .deed ⟨.makeDirs _, _⟩ | .deed ⟨.openLog _, _⟩ | .deed ⟨.now, _⟩
  | .deed ⟨.startThread, _⟩ | .deed ⟨.log _, _⟩ | .written _ _ => .isTrue trivial

def Faithful (d : Disk) : List (Event ε) → Prop
  | [] => True
  | e :: es => Answered d e ∧ Faithful (after d e) es

instance decidableFaithful : (d : Disk) → (events : List (Event ε)) → Decidable (Faithful d events)
  | _, [] => .isTrue trivial
  | d, e :: es =>
    have := decidableFaithful (after d e) es
    inferInstanceAs (Decidable (Answered d e ∧ Faithful (after d e) es))

/-- No console writes just before a file is removed. -/
def Undisturbed (first second : Event ε) : Prop := first.writes → ¬ second.removes

instance (first second : Event ε) : Decidable (Undisturbed first second) :=
  inferInstanceAs (Decidable (first.writes → ¬ second.removes))

/-- What happens to the files in the course of deeds. -/
structure Course (d : Disk) (deeds : List (Exchange (Device.interface ε)))
    (events : List (Event ε)) : Prop where
  done : events.filterMap Event.deed? = deeds
  faithful : Faithful d events
  undisturbed : events.IsChain Undisturbed

@[simp] theorem through_nil (d : Disk) : through (ε := ε) d [] = d := rfl

theorem through_cons (d : Disk) (e : Event ε) (es : List (Event ε)) :
    through d (e :: es) = through (after d e) es := rfl

theorem through_append (d : Disk) (first last : List (Event ε)) :
    through d (first ++ last) = through (through d first) last := List.foldl_append

theorem faithful_append {d : Disk} {first last : List (Event ε)} :
    Faithful d (first ++ last) ↔ Faithful d first ∧ Faithful (through d first) last := by
  induction first generalizing d with
  | nil => simp [Faithful]
  | cons e first ih => simp [Faithful, through_cons, ih, and_assoc]

/-- Deeds in two parts. -/
theorem Course.split {d : Disk} {t t' : List (Exchange (Device.interface ε))}
    {events : List (Event ε)} (h : Course d (t ++ t') events) :
    ∃ first last, events = first ++ last ∧ Course d t first ∧ Course (through d first) t' last := by
  obtain ⟨first, last, rfl, h₁, h₂⟩ := List.filterMap_eq_append_iff.1 h.done
  obtain ⟨faithful, faithful'⟩ := faithful_append.1 h.faithful
  obtain ⟨quiet, quiet', -⟩ := List.isChain_append.1 h.undisturbed
  exact ⟨first, last, rfl, ⟨h₁, faithful, quiet⟩, ⟨h₂, faithful', quiet'⟩⟩

/-! ## What a file holds stays in it -/

/-- A file is removed only when it was just found empty. -/
def Careful (deeds : List (Exchange (Device.interface ε))) : Prop :=
  ∀ told path a more, deeds = told ++ ⟨.removeFile path, a⟩ :: more →
    ∃ first, told = first ++ [⟨.fileSize path, .ok 0⟩]

theorem Careful.append {t t' : List (Exchange (Device.interface ε))} (h : Careful t)
    (h' : Careful t') : Careful (t ++ t') := by
  intro told path a more split
  rcases List.append_eq_append_iff.1 split with ⟨part, rfl, tail⟩ | ⟨part, rfl, tail⟩
  · obtain ⟨first, rfl⟩ := h' part path a more tail
    exact ⟨t ++ first, by simp⟩
  · rcases part with _ | ⟨e, part⟩
    · obtain ⟨first, none⟩ := h' [] path a more (by simpa using tail.symm)
      rcases first with _ | _ <;> cases none
    · cases tail
      exact h told path a part rfl

theorem careful_emptied (path : String) (a : Except IoError Unit) :
    Careful (ε := ε) [⟨.fileSize path, .ok 0⟩, ⟨.removeFile path, a⟩] := by
  rintro told other b more split
  rcases told with _ | ⟨_, _ | ⟨_, _ | _⟩⟩ <;> cases split
  exact ⟨[], rfl⟩

/-- What is removed is empty. -/
theorem removed_empty {d : Disk} {deeds : List (Exchange (Device.interface ε))}
    {events first last : List (Event ε)} (careful : Careful deeds) (course : Course d deeds events)
    {path : String} {a : Except IoError Unit}
    (split : events = first ++ .deed ⟨.removeFile path, a⟩ :: last) :
    through d first path = some [] := by
  subst split
  obtain ⟨told, look⟩ := careful (first.filterMap Event.deed?) path a (last.filterMap Event.deed?)
    (by rw [← course.done, List.filterMap_append]; rfl)
  -- nobody writes just before, so it is the look that comes just before
  rcases List.eq_nil_or_concat' first with rfl | ⟨first, e, rfl⟩
  · rcases told with _ | _ <;> cases look
  have quiet : Undisturbed e (.deed ⟨.removeFile path, a⟩) :=
    (List.isChain_append.1 course.undisturbed).2.2 e (by simp) _ rfl
  cases e with
  | written => exact (quiet rfl rfl).elim
  | deed e =>
    have before : [e] = [⟨.fileSize path, .ok 0⟩] :=
      (List.append_inj' (List.filterMap_append.symm.trans look) rfl).2
    cases before
    have answered : some 0 = (through d first path).map List.length :=
      (faithful_append.1 (faithful_append.1 course.faithful).1).2.1
    obtain ⟨bytes, holds, none⟩ := Option.map_eq_some_iff.1 answered.symm
    obtain rfl := List.length_eq_zero_iff.1 none
    rw [through_append]
    exact holds

/-- A file that is not removed goes on to hold what it holds. -/
theorem holds_of_after {d : Disk} {e : Event ε} {path : String} {bytes : List UInt8}
    (holds : d path = some bytes) (stays : ∀ a, e ≠ .deed ⟨.removeFile path, a⟩) :
    ∃ more, after d e path = some (bytes ++ more) := by
  have same : d path = some (bytes ++ []) := by simpa using holds
  cases e with
  | written other more =>
    by_cases h : path = other
    · subst h
      exact ⟨more, by simp [after, holds]⟩
    · exact ⟨[], by simpa [after, h] using same⟩
  | deed e =>
    obtain ⟨r, a⟩ := e
    cases r with
    | openLog other =>
      rcases a with _ | _
      · exact ⟨[], same⟩
      by_cases h : path = other
      · subst h
        exact ⟨[], by simp [after, holds]⟩
      · exact ⟨[], by simpa [after, h] using same⟩
    | removeFile other =>
      rcases a with _ | _
      · exact ⟨[], same⟩
      by_cases h : path = other
      · subst h
        exact (stays _ rfl).elim
      · exact ⟨[], by simpa [after, h] using same⟩
    | _ => exact ⟨[], same⟩

/-- **What a file holds stays in it**, from any moment on. -/
theorem holds_of_careful {d : Disk} {deeds : List (Exchange (Device.interface ε))}
    {events : List (Event ε)} (careful : Careful deeds) (course : Course d deeds events)
    {first last : List (Event ε)} (split : events = first ++ last) {path : String}
    {bytes : List UInt8} (holds : through d first path = some bytes) (some_byte : bytes ≠ []) :
    ∃ more, through d events path = some (bytes ++ more) := by
  induction last generalizing first bytes with
  | nil => exact ⟨[], by simpa [split] using holds⟩
  | cons e last ih =>
    obtain ⟨more, later⟩ := holds_of_after (e := e) holds fun a he => by
      subst he
      rw [removed_empty careful course split] at holds
      exact some_byte (Option.some.inj holds).symm
    obtain ⟨more', last⟩ := ih (show events = (first ++ [e]) ++ last by simpa using split)
      (by rw [through_append]; exact later) (by simp [some_byte])
    exact ⟨more ++ more', by rw [last, List.append_assoc]⟩

/-! ## No empty file is left behind -/

def opened (deeds : List (Exchange (Device.interface ε))) : List String :=
  deeds.filterMap fun
    | ⟨.openLog path, .ok _⟩ => some path
    | _ => none

theorem opened_append (t t' : List (Exchange (Device.interface ε))) :
    opened (t ++ t') = opened t ++ opened t' := List.filterMap_append

/-- A file is empty because it was, or because it was made. -/
theorem empty_of_through {d : Disk} {events : List (Event ε)} {path : String}
    (empty : through d events path = some []) :
    d path = some [] ∨ path ∈ opened (events.filterMap Event.deed?) := by
  induction events generalizing d with
  | nil => exact .inl empty
  | cons e events ih =>
    rw [through_cons] at empty
    have opened_later {es : List (Exchange (Device.interface ε))} (h : path ∈ opened es)
        (e : Exchange (Device.interface ε)) : path ∈ opened (e :: es) := by
      rw [← List.singleton_append, opened_append]
      exact List.mem_append_right _ h
    cases e with
    | written other bytes =>
      refine (ih empty).imp (fun was => ?_) id
      by_cases h : path = other
      · subst h
        simp only [after, Function.update_self, Option.map_eq_some_iff,
          List.append_eq_nil_iff] at was
        obtain ⟨_, was, rfl, -⟩ := was
        exact was
      · simpa [after, h] using was
    | deed e =>
      rcases ih empty with was | later
      · obtain ⟨r, a⟩ := e
        cases r with
        | openLog other =>
          rcases a with _ | _
          · exact .inl was
          by_cases h : path = other
          · subst h
            exact .inr (List.mem_cons_self ..)
          · exact .inl (by simpa [after, h] using was)
        | removeFile other =>
          rcases a with _ | _
          · exact .inl was
          by_cases h : path = other
          · subst h
            simp [after] at was
          · exact .inl (by simpa [after, h] using was)
        | _ => exact .inl was
      · exact .inr (opened_later later e)

/-- What is empty after the deeds is in `kept`, unless the deeds had nothing to do with it. -/
def Tidy (held : Set String) (deeds : List (Exchange (Device.interface ε))) (kept : Set String) :
    Prop :=
  ∀ d events, Course d deeds events → ∀ path, through d events path = some [] →
    path ∈ kept ∨ d path = some [] ∧ path ∉ held ∧ path ∉ opened deeds

theorem Tidy.append {held kept last : Set String} {t t' : List (Exchange (Device.interface ε))}
    (h : Tidy held t kept) (h' : Tidy kept t' last) : Tidy held (t ++ t') last := by
  intro d events course path empty
  obtain ⟨first, later, rfl, course, course'⟩ := course.split
  rw [through_append] at empty
  rcases h' _ _ course' path empty with hpath | ⟨between, other, unopened⟩
  · exact .inl hpath
  rcases h _ _ course path between with hpath | ⟨before, others, unopened'⟩
  · exact absurd hpath other
  · refine .inr ⟨before, others, ?_⟩
    rw [opened_append, List.mem_append]
    exact not_or.2 ⟨unopened', unopened⟩

/-- Other files may be empty, before and after. -/
theorem Tidy.frame {held kept : Set String} {t : List (Exchange (Device.interface ε))}
    (h : Tidy held t kept) (others : Set String) : Tidy (held ∪ others) t (kept ∪ others) := by
  intro d events course path empty
  by_cases other : path ∈ others
  · exact .inl (.inr other)
  · refine (h d events course path empty).imp Or.inl fun ⟨before, unheld, unopened⟩ => ?_
    exact ⟨before, fun hpath => hpath.elim unheld other, unopened⟩

theorem Tidy.mono {held kept held' kept' : Set String}
    {t : List (Exchange (Device.interface ε))} (h : Tidy held t kept) (less : held' ⊆ held)
    (more : kept ⊆ kept') : Tidy held' t kept' := by
  intro d events course path empty
  refine (h d events course path empty).imp (@more path) fun ⟨before, unheld, unopened⟩ => ?_
  exact ⟨before, fun hpath => unheld (less hpath), unopened⟩

/-- Whatever is done, what is empty was so before or was opened. -/
theorem tidy_of_opened {t : List (Exchange (Device.interface ε))} (held kept : Set String)
    (h : ∀ path ∈ opened t, path ∈ kept) : Tidy held t (held ∪ kept) := by
  intro d events course path empty
  by_cases hk : path ∈ held ∪ kept
  · exact .inl hk
  · have unopened : path ∉ opened t := fun hpath => hk (.inr (h path hpath))
    refine .inr ⟨(empty_of_through empty).resolve_right ?_, fun hpath => hk (.inl hpath), unopened⟩
    rwa [course.done]

/-- A deed after which a file is not there, or not empty. -/
theorem tidy_single {e : Exchange (Device.interface ε)} {path : String}
    (settled : ∀ d, Answered d (.deed e) → after d (.deed e) path ≠ some [])
    (unopened : opened [e] = []) : Tidy {path} [e] ∅ := by
  intro d events course other empty
  have was := (empty_of_through empty).resolve_right (by rw [course.done, unopened]; exact nofun)
  refine .inr ⟨was, fun same => ?_, by rw [unopened]; exact nofun⟩
  obtain rfl : other = path := same
  obtain ⟨first, ev, last, rfl, -, he, rest⟩ := List.filterMap_eq_cons_iff.1 course.done
  cases ev with
  | written => cases he
  | deed ev =>
    cases he
    have answered := (faithful_append.1 course.faithful).2.1
    rw [through_append, through_cons] at empty
    have later := (empty_of_through empty).resolve_right (by rw [rest]; exact nofun)
    exact settled _ answered later

/-- A file whose size is not zero is not there, or not empty. -/
theorem tidy_look {path : String} {size : Except IoError Nat} (h : size ≠ .ok 0) :
    Tidy (ε := ε) {path} [⟨.fileSize path, size⟩] ∅ := by
  refine tidy_single (fun d answered => ?_) rfl
  have answered : size.toOption = (d path).map List.length := answered
  intro (empty : d path = some [])
  rw [empty] at answered
  rcases size with e | n
  · cases answered
  · cases answered
    exact h rfl

/-- A file that cannot be removed is not there. -/
theorem tidy_removal (path : String) (removed : Except IoError Unit) :
    Tidy (ε := ε) {path} [⟨.removeFile path, removed⟩] ∅ := by
  refine tidy_single (fun d answered => ?_) rfl
  rcases removed with e | _
  · have absent : false = (d path).isSome := answered
    intro (empty : d path = some [])
    rw [empty] at absent
    cases absent
  · simp [after]

end Disk

end Testbed.Console
