import Testbed.Proofs.Text.Digits
import Testbed.Proofs.Transport.Classification
/-!
# How long a connection may take

Settings are accepted only with a connect timeout above zero, so that no attempt to reach a host
goes on forever. ssh and scp are given the timeout in whole seconds, as one of the settings at the
front of their arguments (`Ssh.given`), and zero means to them that there is none.

Main statement: `connect_timeout_bounds_iff`, what is given bounds a connection unless the timeout
that was set is shorter than a second; `connect_timeout_not_always_bounds` has such a timeout.
-/
namespace Testbed

open Program Transport

/-! ## Settings that are accepted -/

theorem Settings.checkPositive_eq_ok_iff (name : String) {d : Duration} :
    checkPositive name d = .ok () ↔ 0 < d.nanos := by
  rcases d with ⟨_ | nanos⟩
  · simp [checkPositive, Duration.zero]
  · simp [checkPositive, Duration.zero]

/-- A check that is passed if nothing is found amiss first. -/
theorem Settings.refuse_eq_ok_iff {p : Prop} [Decidable p] {d : Defect}
    {rest : Unit → Except Defect Unit} :
    (if p then throw d >>= rest else rest ()) = .ok () ↔ ¬ p ∧ rest () = .ok () := by
  by_cases amiss : p
  · rw [if_pos amiss]
    exact iff_of_false nofun fun ⟨fine, _⟩ => fine amiss
  · rw [if_neg amiss]
    exact (and_iff_right amiss).symm

/-- **What is accepted.** -/
theorem Settings.Ssh.check_eq_ok_iff {kindOf : String → PathKind} {s : Settings.Ssh} :
    s.check kindOf = .ok () ↔
      s.user ≠ "" ∧ (∀ key, s.key = some key → kindOf key = .file) ∧ 2 ≤ s.maxLogLines ∧
        0 < s.connectTimeout.nanos := by
  rcases s with ⟨user, key, timeout, ignores, strips, lines⟩
  have enough : ¬ lines < 2 ↔ 2 ≤ lines := Nat.not_lt
  rw [← checkPositive_eq_ok_iff "connect_timeout", check, refuse_eq_ok_iff]
  cases key with
  | none | some _ =>
    simp only [refuse_eq_ok_iff, enough]
    simp

namespace Ssh

/-! ## The settings among the arguments -/

/-- The settings among the options that ssh or scp begins with: an `-o` has one behind it, and an
`-i` has the path of a key. -/
def given : List String → List String
  | "-o" :: setting :: rest => setting :: given rest
  | "-i" :: _ :: rest => given rest
  | _ => []

def isTimeout (setting : String) : Bool := "ConnectTimeout=".toList.isPrefixOf setting.toList

def timeouts (argv : List String) : List String := (given argv.tail).filter isTimeout

/-- What is built from some settings: an ssh to a host, with what is to be run there, or a copy. -/
inductive Built (s : Settings.Ssh) : List String → Prop
  | ssh (host : String) (ignoreHostKeys tty : Bool) (line : List String) :
      Built s (invocation s host ignoreHostKeys tty ++ line)
  | scp (host source target : String) (ignoreHostKeys : Bool) (direction : Direction) :
      Built s (copyInvocation s host source target ignoreHostKeys direction)

variable {s : Settings.Ssh}

theorem given_of_other {word : String} {rest : List String} (other : word ≠ "-o" ∧ word ≠ "-i") :
    given (word :: rest) = [] := by
  obtain ⟨setting, key⟩ := other
  rcases rest with _ | ⟨next, rest⟩
  · simp [given]
  · simp [given, setting, key]

/-- Who logs in is none of the options, whatever the user and the host are called. -/
theorem login_ne (host : String) : login s host ≠ "-o" ∧ login s host ≠ "-i" := by
  have sign : '@' ∈ (login s host).toList := by
    have parts : login s host = s.user ++ "@" ++ host := rfl
    simp [parts]
  have other {word : String} (plain : '@' ∉ word.toList) : login s host ≠ word := by
    rintro rfl
    exact plain sign
  exact ⟨other (by decide), other (by decide)⟩

/-- The settings that are not always given. -/
def optional (s : Settings.Ssh) (ignoreHostKeys : Bool) : List String :=
  (if ignoreHostKeys then
    ["StrictHostKeyChecking=no", "UserKnownHostsFile=/dev/null", "LogLevel=ERROR"] else []) ++
  if s.key.isSome then ["IdentitiesOnly=yes"] else []

theorem given_options (ignoreHostKeys : Bool) (rest : List String) :
    given (options s ignoreHostKeys ++ rest) =
      "BatchMode=yes" :: ("ConnectTimeout=" ++ s.connectTimeout.seconds.repr) ::
        (optional s ignoreHostKeys ++ given rest) := by
  have timeout : s!"ConnectTimeout={Text.decimal s.connectTimeout.seconds}" =
      "ConnectTimeout=" ++ s.connectTimeout.seconds.repr := by
    rw [Text.decimal_eq_repr]
    rfl
  rw [options, timeout, optional]
  cases ignoreHostKeys <;> cases s.key <;> simp [given, ignoringHostKeys]

/-- Of all settings one is a timeout, and it is given in whole seconds. -/
theorem timeouts_options {ignoreHostKeys : Bool} {program : String} {rest : List String}
    (ends : given rest = []) : timeouts (program :: (options s ignoreHostKeys ++ rest)) =
      ["ConnectTimeout=" ++ s.connectTimeout.seconds.repr] := by
  have named : isTimeout ("ConnectTimeout=" ++ s.connectTimeout.seconds.repr) := by
    rw [isTimeout, String.toList_append, List.isPrefixOf_iff_prefix]
    exact List.prefix_append _ _
  have others : (optional s ignoreHostKeys).filter isTimeout = [] := by
    rw [optional]
    cases ignoreHostKeys <;> cases s.key <;> rfl
  rw [timeouts, List.tail_cons, given_options, ends, List.append_nil,
    List.filter_cons_of_neg (by decide), List.filter_cons_of_pos named, others]

/-- **One timeout.** What the user, the host and the paths are called makes no difference. -/
theorem timeouts_of_built {argv : List String} (built : Built s argv) :
    timeouts argv = ["ConnectTimeout=" ++ s.connectTimeout.seconds.repr] := by
  cases built with
  | ssh host ignoreHostKeys tty line =>
    have parts : invocation s host ignoreHostKeys tty ++ line = "ssh" ::
        (options s ignoreHostKeys ++ ((if tty then ["-tt"] else []) ++ login s host :: line)) := by
      simp [invocation]
    have ends : given ((if tty then ["-tt"] else []) ++ login s host :: line) = [] := by
      cases tty with
      | false => exact given_of_other (login_ne host)
      | true => exact given_of_other (by decide)
    rw [parts, timeouts_options ends]
  | scp host source target ignoreHostKeys direction =>
    have ends (rest : List String) : given ("-r" :: rest) = [] := given_of_other (by decide)
    exact timeouts_options (ends _)

end Ssh

namespace Transport

open Ssh

/-! ## What is run for a host -/

/-- A process may be run or started if it is built from these settings. -/
def Builds (s : Settings.Ssh) : Request → Prop
  | .run argv | .start argv _ => Built s argv
  | .sleep _ | .log _ => True

variable {t : Transport} {host : String}

theorem builds_runShell {line : String} {o : RunOptions} :
    (t.runShell host line o).run.AsksOnly (I := interface) (Builds t.settings) :=
  asksOnly_runShell (.ssh ..) (.ssh ..) fun _ => trivial

theorem builds_start {argv : List String} {log : Option String} (built : Built t.settings argv) :
    (start host argv log).run.AsksOnly (I := interface) (Builds t.settings) := by
  refine asksOnly_try_bind (asksOnly_lift ⟨trivial, fun _ => trivial⟩) fun _ => ⟨built, fun a => ?_⟩
  cases a <;> trivial

theorem builds_shellCall (c : ShellCall) :
    (c.perform t host).run.AsksOnly (I := interface) (Builds t.settings) := by
  rw [ShellCall.perform_eq]
  exact asksOnly_try_map builds_runShell

theorem builds_background {command : Command} {o : RunOptions} :
    (t.runBackground host command o).run.AsksOnly (I := interface) (Builds t.settings) := by
  unfold runBackground
  split
  · exact asksOnly_try_map builds_runShell
  · exact asksOnly_try_map (builds_start (.ssh ..))

theorem builds_copy {source target : String} {o : CopyOptions} :
    (t.copy host source target o).run.AsksOnly (I := interface) (Builds t.settings) := by
  unfold copy
  refine asksOnly_try_bind ⟨.scp .., fun a => ?_⟩ fun out => ?_
  · cases a <;> trivial
  · exact asksOnly_try_bind (asksOnly_lift ⟨trivial, fun _ => trivial⟩) fun _ => trivial

end Transport

/-- Longer than nothing and shorter than a second. -/
def Duration.Subsecond (d : Duration) : Prop := 0 < d.nanos ∧ d.nanos < second

/-- **Whether the connect timeout bounds a connection.** If settings are accepted, every ssh and scp
that is built from them is given one connect timeout, a whole number of seconds. It is at least one
second unless the timeout that was set is shorter than that.

Nothing else is run or started for a host, whatever is answered: not for a command or its banner,
in the background, with a log of its own, or for a copy. -/
theorem connect_timeout_bounds_iff {kindOf : String → PathKind} {s : Settings.Ssh}
    (accepted : s.check kindOf = .ok ()) :
    (∀ argv, Ssh.Built s argv → ∃ n : ℕ, Ssh.timeouts argv = ["ConnectTimeout=" ++ n.repr] ∧
      (1 ≤ n ↔ ¬ s.connectTimeout.Subsecond)) ∧
    ∀ host : String,
      let t : Transport := ⟨s⟩
      (∀ c : ShellCall, (c.perform t host).run.AsksOnly (I := interface) (Builds s)) ∧
      (∀ command o, (t.runBackground host command o).run.AsksOnly (I := interface) (Builds s)) ∧
      (∀ command o log,
        (t.startLogged host command o log).run.AsksOnly (I := interface) (Builds s)) ∧
      ∀ source target o, (t.copy host source target o).run.AsksOnly (I := interface) (Builds s) := by
  obtain ⟨-, -, -, positive⟩ := Settings.Ssh.check_eq_ok_iff.1 accepted
  refine ⟨fun argv built => ⟨_, Ssh.timeouts_of_built built, ?_⟩, fun host => ?_⟩
  · have whole : 1 ≤ s.connectTimeout.seconds ↔ Duration.second ≤ s.connectTimeout.nanos :=
      Nat.le_div_iff_mul_le (by decide)
    rw [whole, Duration.Subsecond]
    omega
  · exact ⟨builds_shellCall, fun _ _ => builds_background, fun _ _ _ => builds_start (.ssh ..),
      fun _ _ _ => builds_copy⟩

/-- A copy with words in it that look like options. The key, the user and the paths are taken for no
timeout, and the one that was set is cut to whole seconds. -/
theorem connect_timeout_bounds_hostile_copy :
    let s : Settings.Ssh :=
      { user := "ConnectTimeout=0", key := some "-o", connectTimeout := ⟨1999999999⟩ }
    let argv := Ssh.copyInvocation s "host" "-o" "ConnectTimeout=0" false .fromHost
    s.check (fun _ => .file) = .ok () ∧ Ssh.Built s argv ∧
      ∃ n : ℕ, Ssh.timeouts argv = ["ConnectTimeout=" ++ n.repr] ∧ 1 ≤ n := by
  intro s argv
  have accepted : s.check (fun _ => .file) = .ok () := rfl
  have built : Ssh.Built s argv := .scp ..
  obtain ⟨n, one, bounds⟩ := (connect_timeout_bounds_iff accepted).1 argv built
  have long : ¬ s.connectTimeout.Subsecond := by
    intro short
    exact absurd short.2 (by decide)
  exact ⟨accepted, built, n, one, bounds.2 long⟩

/-- Settings with a connect timeout of half a second are accepted, and ssh is given none. -/
theorem connect_timeout_not_always_bounds :
    ¬ ∀ {kindOf : String → PathKind} {s : Settings.Ssh}, s.check kindOf = .ok () →
      ∀ argv, Ssh.Built s argv →
        ∃ n : ℕ, Ssh.timeouts argv = ["ConnectTimeout=" ++ n.repr] ∧ 1 ≤ n := by
  intro promised
  let s : Settings.Ssh := { connectTimeout := .ofMillis 500 }
  have accepted : s.check (fun _ => .missing) = .ok () := rfl
  obtain ⟨n, one, positive⟩ := promised accepted _ (.ssh "10.0.0.1" true false [])
  have zero : Ssh.timeouts (Ssh.invocation s "10.0.0.1" true false ++ []) =
      ["ConnectTimeout=" ++ (0 : ℕ).repr] := by decide +kernel
  have same : "ConnectTimeout=" ++ (0 : ℕ).repr = "ConnectTimeout=" ++ n.repr :=
    (List.cons.inj (zero.symm.trans one)).1
  have none : 0 = n := Text.repr_injective ((String.append_right_inj _).1 same)
  omega

end Testbed
