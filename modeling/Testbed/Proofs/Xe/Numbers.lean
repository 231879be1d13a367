import Testbed.Guest
import Testbed.Proofs.Host.Queries
import Testbed.Proofs.Text.Digits
import Testbed.Storage
/-!
# Numbers of the toolstack

The toolstack prints numbers as text: the size of a disk, and the number of the domain that a guest
runs in, which is negative if there is none. A program that asks for one makes a single query. What
was printed is read as a number if it is a numeral within the range of the machine, and anything
else is unexpected (`Host.AsksFor`).

Main statement: `numbers_read_exactly`. A domain that was misread would have the console of another
guest recorded.
-/
namespace Testbed

open Program Transport

variable {α : Type} {r : List Executed}

/-! ## What is read from a text -/

/-- What comes of a text that ought to be a number: the number that it is, or a fault that shows it
if it is none. -/
structure Reading (Number : α → Prop) (what text : String) (res : Except Fault α) : Prop where
  ok_iff : ∀ a, res = .ok a ↔ Number a
  error_iff : ∀ fault, res = .error fault ↔ fault = .unexpected what text ∧ ∀ a, ¬ Number a

def readAs (read : String → Option α) (what text : String) : Except Fault α :=
  match read text with
  | some a => .ok a
  | none => .error (.unexpected what text)

theorem reading_readAs {read : String → Option α} {Number : α → Prop} {what text : String}
    (reads : ∀ a, read text = some a ↔ Number a) :
    Reading Number what text (readAs read what text) := by
  unfold readAs
  cases found : read text with
  | some a =>
    have number : Number a := (reads a).1 found
    constructor
    · intro b
      simp [← reads b, found]
    · intro fault
      constructor
      · nofun
      · rintro ⟨-, none⟩
        exact absurd number (none a)
  | none =>
    have none (a : α) : ¬ Number a := by
      intro number
      have some := (reads a).2 number
      simp [found] at some
    constructor
    · intro a
      exact ⟨nofun, fun number => absurd number (none a)⟩
    · intro fault
      simp [none, eq_comm]

/-- A text that is asked for and then read. -/
theorem executes_read {x : Operation String} {read : String → Except Fault α}
    {res : Except Fault α} :
    Executes (x >>= fun text => ExceptT.mk (.done (read text))).run r res ↔
      ∃ text, res = text.bind read ∧ Executes x.run r text := by
  rw [executes_try_bind]
  constructor
  · rintro (⟨fault, rfl, failed⟩ | ⟨r₁, r₂, text, rfl, asked, ended⟩)
    · exact ⟨.error fault, rfl, failed⟩
    · obtain ⟨rfl, rfl⟩ := executes_done.1 ended
      rw [List.append_nil]
      exact ⟨.ok text, rfl, asked⟩
  · rintro ⟨fault | text, rfl, asked⟩
    · exact .inl ⟨fault, rfl, asked⟩
    · exact .inr ⟨r, [], text, (List.append_nil r).symm, asked, executes_done.2 ⟨rfl, rfl⟩⟩

/-! ## Programs that ask for a number -/

namespace Host

variable {h : Host} {query : Command}

/-- A program asks a host for a number, by one query. If that fails so does the program, with the
same fault. If it succeeds the program has one result, which the text that was printed decides. -/
structure AsksFor (h : Host) (query : Command) (Number : String → α → Prop) (what : String)
    (p : Operation α) : Prop where
  determined : Determined p.run
  asked : ∀ r res, Executes p.run r res →
    (∃ bytes, h.Printed query r bytes) ∨ ∃ fault, h.Yields query r (.error fault)
  failed : ∀ r fault, h.Yields query r (.error fault) →
    ∀ res, Executes p.run r res ↔ res = .error fault
  printed : ∀ r bytes, h.Printed query r bytes →
    let text := Text.trim (Text.decode bytes)
    ∃ res, Reading (Number text) what text res ∧ ∀ other, Executes p.run r other ↔ other = res

theorem asksFor_of_reads (read : String → Option α) {Number : String → α → Prop} {what : String}
    {p : Operation α} (reads : ∀ text a, read text = some a ↔ Number text a)
    (asks : p = h.ssh query >>= fun text => ExceptT.mk (.done (readAs read what text))) :
    h.AsksFor query Number what p := by
  subst asks
  let p : Operation α := h.ssh query >>= fun text => ExceptT.mk (.done (readAs read what text))
  have runs {r : List Executed} {res : Except Fault α} : Executes p.run r res ↔
      ∃ text, res = text.bind (readAs read what) ∧ h.Yields query r text := by
    rw [executes_read]
    simp only [executes_ssh]
  have waits : p.run.AsksOnly (I := Transport.interface) Waited :=
    asksOnly_try_bind waited_ssh fun _ => trivial
  -- what was run decides the result, so one run with it is as good as all
  have only {r : List Executed} {text : Except Fault String} (yields : h.Yields query r text)
      (res : Except Fault α) : Executes p.run r res ↔ res = text.bind (readAs read what) := by
    have run : Executes p.run r (text.bind (readAs read what)) := runs.2 ⟨text, rfl, yields⟩
    constructor
    · intro other
      exact other.unique waits run
    · rintro rfl
      exact run
  refine ⟨determined waits, ?_, ?_, ?_⟩
  · intro r res run
    obtain ⟨fault | text, -, yields⟩ := runs.1 run
    · exact .inr ⟨fault, yields⟩
    · obtain ⟨bytes, printed, -⟩ := yields_ok_iff.1 yields
      exact .inl ⟨bytes, printed⟩
  · intro r fault yields
    exact only yields
  · intro r bytes printed text
    have yields : h.Yields query r (.ok text) := yields_ok_iff.2 ⟨bytes, printed, rfl⟩
    exact ⟨readAs read what text, reading_readAs (reads text), only yields⟩

end Host

/-! ## Sizes and domains -/

def Disk.sizeQuery (d : Disk) : Command :=
  Xe.command "vdi-param-get" [("uuid", d.uuid), ("param-name", "virtual-size")] false

def Guest.domidQuery (g : Guest) : Command :=
  Xe.command "vm-param-get" [("uuid", g.uuid), ("param-name", "dom-id")] false

theorem Disk.asksFor_size (d : Disk) :
    d.owner.AsksFor d.sizeQuery (fun text n => Text.Unsigned text.toList n ∧ n < UInt64.size)
      s!"virtual-size of vdi {d.uuid}" d.virtualSize := by
  refine Host.asksFor_of_reads Text.unsigned64? (fun _ _ => Text.unsigned64?_eq_some_iff) ?_
  · unfold virtualSize
    refine congrArg (d.parameter "virtual-size" >>= ·) (funext fun text => ?_)
    rw [readAs]
    cases Text.unsigned64? text <;> rfl

theorem Guest.asksFor_domid (g : Guest) :
    g.owner.AsksFor g.domidQuery
      (fun text id => ∃ v : ℤ, Text.Signed text.toList v ∧
        Int64.minValue.toInt ≤ v ∧ v ≤ Int64.maxValue.toInt ∧
        id = if 0 ≤ v then some v.toNat else none)
      s!"dom-id of vm {g.uuid}" g.domid := by
  let read (text : String) : Option (Option ℕ) :=
    (Text.signed64? text).map fun v => if 0 ≤ v then some v.toNat else none
  refine Host.asksFor_of_reads read ?_ ?_
  · intro text id
    rw [Option.map_eq_some_iff]
    simp only [Text.signed64?_eq_some_iff, and_assoc, eq_comm (a := id)]
  · unfold domid
    refine congrArg (g.parameter "dom-id" >>= ·) (funext fun text => ?_)
    rw [readAs]
    simp only [read]
    cases Text.signed64? text <;> rfl

/-- The words of a new disk say its size in decimal. -/
theorem Storage.ran_of_createDisk {s : Storage} {name : String} {n : ℕ}
    {t : List (Exchange Transport.interface)} {res : Except Fault Disk}
    (run : Runs (s.createDisk name n).run t res) :
    s.owner.Ran t ("xe" :: "vdi-create" ::
      [("sr-uuid", s.uuid), ("name-label", name), ("virtual-size", n.repr)].map
        fun (key, value) => key ++ "=" ++ value) := by
  rw [← Text.decimal_eq_repr]
  rcases runs_try_bind.1 run with ⟨fault, rfl, failed⟩ | ⟨t₁, t₂, text, rfl, made, rest⟩
  · exact Host.ran_of_ssh failed
  · have silent : (Operation.newUuid "vdi uuid" text).run.AsksOnly (I := Transport.interface)
        fun _ => False := by
      unfold Operation.newUuid
      split <;> trivial
    have nothing : t₂ = [] := List.eq_nil_iff_forall_not_mem.2 <|
      asksOnly_of_runs rest (asksOnly_try_bind silent fun _ => trivial)
    rw [nothing, List.append_nil]
    exact Host.ran_of_ssh made

/-- **Numbers are read exactly.** The size of a disk is what was printed for it, if that is an
optional plus and digits of a value below `2 ^ 64`. The domain of a guest is what was printed for
it, if that is an optional sign and digits of a value that fits into 64 bits with a sign; a value
below zero means that there is none. Any other text is unexpected, and the fault shows it.

The words by which a disk is created say its size in decimal, and when that is printed for a disk
its size is read from it, for each number below `2 ^ 64`. -/
theorem numbers_read_exactly :
    (∀ d : Disk, d.owner.AsksFor d.sizeQuery
      (fun text n => Text.Unsigned text.toList n ∧ n < UInt64.size)
      s!"virtual-size of vdi {d.uuid}" d.virtualSize) ∧
    (∀ g : Guest, g.owner.AsksFor g.domidQuery
      (fun text id => ∃ v : ℤ, Text.Signed text.toList v ∧
        Int64.minValue.toInt ≤ v ∧ v ≤ Int64.maxValue.toInt ∧
        id = if 0 ≤ v then some v.toNat else none)
      s!"dom-id of vm {g.uuid}" g.domid) ∧
    ∀ n < UInt64.size,
      (∀ (s : Storage) (name : String) {t : List (Exchange Transport.interface)}
          {res : Except Fault Disk}, Runs (s.createDisk name n).run t res →
        s.owner.Ran t ("xe" :: "vdi-create" ::
          [("sr-uuid", s.uuid), ("name-label", name), ("virtual-size", n.repr)].map
            fun (key, value) => key ++ "=" ++ value)) ∧
      ∀ (d : Disk) {r : List Executed} {bytes : List UInt8},
        d.owner.Printed d.sizeQuery r bytes → Text.trim (Text.decode bytes) = n.repr →
        ∀ res, Executes d.virtualSize.run r res ↔ res = .ok n := by
  refine ⟨Disk.asksFor_size, Guest.asksFor_domid, fun n small => ⟨?_, ?_⟩⟩
  · intro s name t res run
    exact Storage.ran_of_createDisk run
  · intro d r bytes printed decimal
    obtain ⟨res, reading, only⟩ := d.asksFor_size.printed r bytes printed
    have numeral : Text.Unsigned (Text.trim (Text.decode bytes)).toList n := by
      rw [decimal]
      exact .bare (Text.digits_repr n)
    obtain rfl : res = .ok n := (reading.ok_iff n).2 ⟨numeral, small⟩
    exact only

/-- The greatest size between blanks, with a sign and zeros, and one more; the least domain; and the
greatest size written and read back. -/
theorem numbers_read_at_limits :
    let h : Host := { address := "host", transport := {} }
    let d : Disk := ⟨"vdi", h⟩
    let g : Guest := ⟨"vm", h⟩
    let s : Storage := ⟨"sr", h⟩
    let said (query : Command) (text : String) : List Executed :=
      [(h.process query.toShell, .ok ⟨0, text.toUTF8.data.toList⟩)]
    let created := (s.createDisk "disk" (UInt64.size - 1)).run.follow (I := Transport.interface)
      (Host.ending 0 "vdi")
    Executes d.virtualSize.run (said d.sizeQuery "\u00A0+0018446744073709551615\n")
      (.ok (UInt64.size - 1)) ∧
    Executes d.virtualSize.run (said d.sizeQuery "18446744073709551616\n")
      (.error (.unexpected "virtual-size of vdi vdi" "18446744073709551616")) ∧
    Executes g.domid.run (said g.domidQuery "-9223372036854775808\n") (.ok none) ∧
    h.Ran created.1 ["xe", "vdi-create", "sr-uuid=sr", "name-label=disk",
      "virtual-size=18446744073709551615"] ∧
    Executes d.virtualSize.run (said d.sizeQuery "18446744073709551615\n")
      (.ok (UInt64.size - 1)) := by
  intro h d g s said created
  obtain ⟨sizes, domids, decimals⟩ := numbers_read_exactly
  have printed (query : Command) (text : String) :
      h.Printed query (said query text) text.toUTF8.data.toList :=
    ⟨_, _, _, (decides_plain_iff rfl).2 ⟨rfl, rfl, rfl⟩, rfl, rfl⟩
  have greatest : (UInt64.size - 1).repr = "18446744073709551615" := by decide +kernel
  obtain ⟨words, back⟩ := decimals (UInt64.size - 1) (by decide)
  refine ⟨?_, ?_, ?_, ?_, ?_⟩
  · obtain ⟨res, reading, only⟩ := (sizes d).printed _ _ (printed d.sizeQuery _)
    have text : (Text.trim (Text.decode
        "\u00A0+0018446744073709551615\n".toUTF8.data.toList)).toList =
          '+' :: "0018446744073709551615".toList := by decide +kernel
    refine (only _).2 ((reading.ok_iff _).2 ⟨?_, by decide⟩).symm
    rw [text]
    exact .plus ⟨by decide, List.all_eq_true.1 (by decide), by decide⟩
  · obtain ⟨res, reading, only⟩ := (sizes d).printed _ _ (printed d.sizeQuery _)
    have text : Text.trim (Text.decode "18446744073709551616\n".toUTF8.data.toList) =
        "18446744073709551616" := by decide +kernel
    have unread : Text.unsigned64? "18446744073709551616" = none := by decide +kernel
    refine (only _).2 ((reading.error_iff _).2 ⟨by rw [text]; rfl, fun n => ?_⟩).symm
    rw [text, ← Text.unsigned64?_eq_some_iff, unread]
    nofun
  · obtain ⟨res, reading, only⟩ := (domids g).printed _ _ (printed g.domidQuery _)
    have text : (Text.trim (Text.decode "-9223372036854775808\n".toUTF8.data.toList)).toList =
        '-' :: "9223372036854775808".toList := by decide +kernel
    have digits : Text.Digits "9223372036854775808".toList 9223372036854775808 :=
      ⟨by decide, List.all_eq_true.1 (by decide), by decide⟩
    have least : Int64.minValue.toInt = -(9223372036854775808 : ℕ) := by decide
    refine (only _).2 ((reading.ok_iff _).2
      ⟨Int64.minValue.toInt, ?_, by decide, by decide, by decide⟩).symm
    rw [text, least]
    exact .minus digits
  · have ran : h.Ran created.1 _ :=
      words s "disk" (runs_follow (I := Transport.interface) (Host.ending 0 "vdi") _)
    rw [greatest] at ran
    exact ran
  · exact (back d (printed d.sizeQuery _) (by rw [greatest]; decide +kernel) _).2 rfl

end Testbed
