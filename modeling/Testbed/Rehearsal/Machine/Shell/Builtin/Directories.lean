import Testbed.Rehearsal.Machine.Mode
import Testbed.Rehearsal.Machine.Printf
import Testbed.Rehearsal.Machine.Shell.Engine
/-!
# Directories and limits

The commands of the shell for its working directory, and for what new files and programs may do.
-/
namespace Testbed.Rehearsal.Machine.Shell

open Sh

/-- The working directory as the shell knows it. -/
def hereNow : Sh String := sys .directory

/-- Goes to a directory; whether that could be done. -/
def goTo (path : String) : Sh Bool := do
  match ← sys (.enter path) with
  | .error _ => return false
  | .ok _ =>
    let old := ((← get).value? "PWD").getD ""
    let export_ (name value : String) : Sh Unit := do
      setVariable name value
      modify fun s =>
        { s with vars := s.vars.map fun (n, v) =>
            if n = name then (n, { v with exported := true }) else (n, v) }
    export_ "OLDPWD" old
    export_ "PWD" (← hereNow)
    return true

def cdCommand : Builtin := fun _ _ arguments => do
  let (_, arguments) ← letterOptions ['L', 'P'] arguments
  let s ← get
  let (target, shown) := match arguments with
    | [] => ((s.value? "HOME").getD "", false)
    | "-" :: _ => ((s.value? "OLDPWD").getD "", true)
    | path :: _ => (path, false)
  let cs := target.toList
  let fixed := cs.head? = some '/' || cs = ['.'] || cs = ['.', '.'] ||
    Text.startsWith ['.', '/'] cs || Text.startsWith ['.', '.', '/'] cs
  let target := if target.isEmpty then "." else target
  let mut candidate := none
  unless fixed do
    for dir in Text.cutAt ':' ((s.value? "CDPATH").getD "").toList do
      let path := if dir.isEmpty then target else String.ofList dir ++ "/" ++ target
      if candidate.isNone then
        match ← sys (.status path) with
        | .ok { kind := .directory, .. } => candidate := some (path, !dir.isEmpty)
        | _ => pure ()
  let (path, far) := candidate.getD (target, false)
  unless ← goTo path do fail s!"can't cd to {target}"
  if shown || far then say s!"{← hereNow}\n"
  return 0

def pwdCommand : Builtin := fun _ _ arguments => do
  let _ ← letterOptions ['L', 'P'] arguments
  say s!"{← hereNow}\n"
  return 0

/-- The mode that is withheld, in letters. -/
def maskText (mask : Nat) : String :=
  let part (shift : Nat) : String :=
    let bits := 7 - mask / Nat.pow 2 shift % 8
    String.ofList ([(4, 'r'), (2, 'w'), (1, 'x')].filterMap fun (bit, c) =>
      if bits / bit % 2 = 1 then some c else none)
  s!"u={part 6},g={part 3},o={part 0}"

def umaskCommand : Builtin := fun _ _ arguments => do
  let (letters, arguments) ← letterOptions ['S'] arguments
  let mask ← sys (.mask none)
  match arguments with
  | [] =>
    say ((if letters.isEmpty then Mode.octal 4 mask else maskText mask) ++ "\n")
  | text :: _ =>
    let cs := text.toList
    if cs.head?.any Char.isDigit then
      unless cs.all Printf.isOctal do fail s!"Illegal number: {text}"
      let _ ← sys (.mask (some (Printf.octalValue cs % 512)))
    else
      match Mode.symbolic? 0 false (0o777 ^^^ mask) text with
      | some mode =>
        let _ ← sys (.mask (some (0o777 ^^^ mode &&& 0o777)))
      | none => fail s!"Illegal mode: {text}"
  return 0

def ulimitCommand : Builtin := fun _ _ arguments => do
  let known := "HSatfdsmcnpvlwr".toList.filter fun c => c ≠ 'a' && c ≠ 'w'
  let (letters, arguments) ← letterOptions ('a' :: 'w' :: known) arguments
  match arguments with
  | [] =>
    if letters.contains 'a' then
      say (Text.join "" ([("time", "seconds"), ("file", "blocks"), ("data", "kbytes")].map
        fun (name, unit) => s!"{name}({unit})      unlimited\n"))
    else say "unlimited\n"
    return 0
  | [text] =>
    if text = "unlimited" || (Text.digits? text.toList).isSome then return 0
    else fail "bad number"
  | _ => fail "too many arguments"

end Testbed.Rehearsal.Machine.Shell
