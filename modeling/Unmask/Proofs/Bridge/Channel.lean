import Mathlib.Data.List.Basic
import Unmask.Bridge.Client

/-!
# One request, one line

A request on an open channel is written as one line and uses up one line of what can be read,
whatever is in that line, so its answer depends on nothing else: `request_step`.
-/

namespace Unmask.Bridge

/-! ## Lines -/

/-- The lines of a byte sequence: each but the last ends with a line feed, and has no other. -/
structure Cut (input : List UInt8) (lines : List (List UInt8)) : Prop where
  flatten : lines.flatten = input
  line : ∀ line ∈ lines, line ≠ [] ∧ 10 ∉ line.dropLast
  ended : ∀ line ∈ lines.dropLast, line.getLast? = some 10

/-- Any other byte belongs to the line that follows it. -/
theorem Cut.cons {input line : List UInt8} {lines : List (List UInt8)}
    (h : Cut input (line :: lines)) {b : UInt8} (hb : b ≠ 10) :
    Cut (b :: input) ((b :: line) :: lines) := by
  obtain ⟨⟨hne, hline⟩, hlines⟩ := List.forall_mem_cons.1 h.line
  refine ⟨?_, List.forall_mem_cons.2 ⟨⟨List.cons_ne_nil b line, ?_⟩, hlines⟩, ?_⟩
  · rw [← h.flatten]
    rfl
  · rw [List.dropLast_cons_of_ne_nil hne, List.mem_cons, not_or]
    exact ⟨hb.symm, hline⟩
  · cases lines with
    | nil => simp
    | cons next lines =>
      obtain ⟨hfirst, hrest⟩ := List.forall_mem_cons.1 h.ended
      exact List.forall_mem_cons.2 ⟨by rw [List.getLast?_cons_of_ne_nil hne, hfirst], hrest⟩

/-- The bridge over an open channel. -/
def opened (unread : List (List UInt8)) (sent : List String) : Bridge :=
  { channel := some { unread, sent } }

@[simp] theorem sent_opened (unread : List (List UInt8)) (sent : List String) :
    (opened unread sent).sent = sent := rfl

variable {α β : Type}

/-- The reply of an operation on a bridge that is left with `line?` to read. -/
abbrev answer (op : Bridge → Reply Bridge α) (line? : Option (List UInt8)) : Reply Bridge α :=
  op (opened line?.toList [])

/-- A step of a bridge sends the request `r` on one line and reads one line. -/
def OneLineStep (r : Request) (op : Bridge → Reply Bridge α) : Prop :=
  ∀ unread sent, op (opened unread sent) =
    { answer op unread.head? with state := opened unread.tail (sent ++ [r.line]) }

/-- A pipe that never breaks takes every line. -/
theorem Channel.send_eq (unread : List (List UInt8)) (sent : List String) (r : Request) :
    Channel.send { unread, sent } r = .ok { unread, sent := sent ++ [r.line] } := rfl

theorem exchange_eq (unread : List (List UInt8)) (sent : List String) (r : Request) :
    exchange { unread, sent } r =
      ((exchange { unread := unread.head?.toList } r).1,
        { unread := unread.tail, sent := sent ++ [r.line] }) := by
  cases unread with
  | nil => rfl
  | cons line rest =>
    simp only [exchange, Channel.send_eq, Channel.receive, List.head?_cons, List.tail_cons,
      Option.toList_some]
    cases String.fromUTF8? ⟨line.toArray⟩ with
    | none => rfl
    | some text =>
      cases hparsed : Response.parse? text with
      | none => simp only [hparsed]
      | some response => cases hok : response.ok <;> simp only [hparsed, hok] <;> rfl

theorem request_step (read : Json → Option α) (onHost : String → Error) (r : Request) :
    OneLineStep r (request read onHost r) := by
  intro unread sent
  simp only [answer, request, connect, opened, exchange_eq unread sent r]

/-- An operation that makes something else of the replies of another leaves its steps alone. -/
theorem OneLineStep.of_reply {r : Request} {op : Bridge → Reply Bridge α}
    {op' : Bridge → Reply Bridge β} (h : OneLineStep r op)
    (hstate : ∀ b, (op' b).state = (op b).state)
    (hreply : ∀ b b', (op b).value = (op b').value → (op b).log = (op b').log →
      (op' b).value = (op' b').value ∧ (op' b).log = (op' b').log) : OneLineStep r op' := by
  intro unread sent
  have hstep := h unread sent
  obtain ⟨hvalue, hlog⟩ := hreply (opened unread sent) (opened unread.head?.toList [])
    (by rw [hstep]) (by rw [hstep])
  have hlast : (op' (opened unread sent)).state = opened unread.tail (sent ++ [r.line]) := by
    rw [hstate, hstep]
  simp only [answer, ← hlast, ← hvalue, ← hlog]

end Unmask.Bridge
