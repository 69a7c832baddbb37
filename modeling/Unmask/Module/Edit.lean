import Unmask.Log
import Unmask.Module.Basic

/-!
# Editing method bodies

Bodies are edited slot by slot and keep their length, so that slot indices in branches stay valid.
Both editors walk the methods in module order and each body from its first slot to its last, thread
a state of the caller's choice, and show every edit to the questions that follow.

* `replace` exchanges single instructions: one function picks them, another gives the replacement.
* `patch` asks for a list of edits at each site, which may lie anywhere in the same body. Edits of
  slots that do not exist are dropped.
-/

namespace Unmask

/-- Applies `f` to each item from left to right, threading a state. -/
def mapState {α σ : Type} (f : α → σ → α × σ) : List α → σ → List α × σ
  | [], s => ([], s)
  | a :: rest, s =>
    let (b, s) := f a s
    let (rest, s) := mapState f rest s
    (b :: rest, s)

/-- Edits the methods of a module in order, threading a state. -/
def Module.editMethods {σ : Type} (f : MethodDef → σ → MethodDef × σ) (m : Module) (s : σ) :
    Module × σ :=
  let (types, s) := mapState (fun (ty : TypeDef) s =>
    let (methods, s) := mapState f ty.methods s
    ({ ty with methods }, s)) m.types s
  ({ m with types }, s)

/-- The new content of one slot. -/
structure Patch where
  index : Nat
  instruction : Instruction
  deriving DecidableEq, Repr, Inhabited

/-- A slot of a body, offered with all edits made so far. -/
structure Site where
  method : MethodDef
  index : Nat
  deriving DecidableEq, Repr, Inhabited

namespace Site

def instruction (site : Site) : Instruction := site.method.code[site.index]?.getD .nop

/-- The instruction before the offered one, if there is one. -/
def previous? (site : Site) : Option Instruction :=
  match site.index with
  | 0 => none
  | i + 1 => site.method.code[i]?

end Site

/-- How far an edit has come: the body at hand, the caller's state, the number of sites edited, and
the records of dropped edits. -/
structure Scan (σ : Type) where
  body : Array Instruction
  state : σ
  count : Nat := 0
  dropped : List LogRecord := []

/-- What an edit of a whole module leaves. -/
structure Edited (σ : Type) where
  module : Module
  state : σ
  count : Nat
  dropped : List LogRecord

/-- Runs `step` over every slot of every body. -/
def scanModule {σ : Type} (step : MethodDef → Scan σ → Nat → Scan σ) (m : Module) (s : σ) :
    Edited σ :=
  let edit (d : MethodDef) (acc : σ × Nat × List LogRecord) :=
    match d.body with
    | none => (d, acc)
    | some body =>
      let scan := (List.range body.size).foldl (step d) ⟨body, acc.1, acc.2.1, acc.2.2⟩
      ({ d with body := some scan.body }, scan.state, scan.count, scan.dropped)
  let (module, state, count, dropped) := m.editMethods edit (s, 0, [])
  ⟨module, state, count, dropped⟩

/-- Chooses instructions to replace. -/
abbrev Chooser (σ : Type) := MethodDef → Instruction → σ → Bool × σ

/-- Gives the replacement of an instruction. -/
abbrev Producer (σ : Type) := MethodDef → Instruction → σ → Instruction × σ

def replaceSlot {σ : Type} (choose : Chooser σ) (produce : Producer σ) (d : MethodDef)
    (scan : Scan σ) (i : Nat) : Scan σ :=
  match scan.body[i]? with
  | none => scan
  | some old =>
    let d := { d with body := some scan.body }
    match choose d old scan.state with
    | (false, s) => { scan with state := s }
    | (true, s) =>
      let (new, s) := produce d old s
      { scan with body := scan.body.setIfInBounds i new, state := s, count := scan.count + 1 }

/-- Replaces every instruction that `choose` picks by what `produce` gives for it, and counts
them. -/
def Module.replace {σ : Type} (choose : Chooser σ) (produce : Producer σ) (m : Module) (s : σ) :
    Edited σ :=
  scanModule (replaceSlot choose produce) m s

/-- Gives the edits to make at a site, if any. -/
abbrev Patcher (σ : Type) := Site → σ → Option (List Patch) × σ

def applyPatches (ps : List Patch) (body : Array Instruction) : Array Instruction :=
  ps.foldl (fun body p => body.setIfInBounds p.index p.instruction) body

def dropRecord (d : MethodDef) (slots : Nat) (p : Patch) : LogRecord :=
  .debug ("Dropping patch of slot " ++ toString p.index ++ " in " ++ d.token.display ++ " (" ++
    toString slots ++ " slots)")

def patchSlot {σ : Type} (patcher : Patcher σ) (d : MethodDef) (scan : Scan σ) (i : Nat) :
    Scan σ :=
  match patcher ⟨{ d with body := some scan.body }, i⟩ scan.state with
  | (none, s) => { scan with state := s }
  | (some ps, s) =>
    let slots := scan.body.size
    { body := applyPatches ps scan.body
      state := s
      count := if ps.any fun p => p.index < slots then scan.count + 1 else scan.count
      dropped := scan.dropped ++
        (ps.filter fun p => ¬ p.index < slots).map (dropRecord d slots) }

/-- Offers every slot to `patcher` and makes the edits it asks for at once. Counts the sites for
which at least one edit was made. -/
def Module.patch {σ : Type} (patcher : Patcher σ) (m : Module) (s : σ) : Edited σ :=
  scanModule (patchSlot patcher) m s

end Unmask
