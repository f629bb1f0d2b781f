/-!
# Control Sequences

A terminal is told how to show a text by control sequences inside it. They begin
with the escape character. What follows it says of which sort a sequence is, and
the sort says where it ends: behind one letter, behind some parameters and a
letter, or only with the next escape character or another control.

Where no terminal is, the sequences are taken out, and with them all controls
other than line ends and the like. A text may break off inside a sequence; what
follows then is lost as far as the sequence would go on.

## Main definitions

* `Terminal.Mode`: The sequence that a character belongs to.
* `Terminal.Mode.shows`, `Terminal.Mode.next`: What a character does.
* `Terminal.plain`: A text without its control sequences.
* `Terminal.bold`, `Terminal.heading`: A text with control sequences around it.

## Theorems

* `Terminal.visible_eq_self`: A text without controls stays as it is.
-/

namespace Vitae

namespace Terminal

/-- The sequence that the next character belongs to. -/
inductive Mode where
  /-- None. -/
  | ground
  /-- Behind an escape character. -/
  | escape
  /-- Behind an escape character and something more. -/
  | escapeMiddle
  /-- At the beginning of a control sequence with parameters. -/
  | controlEntry
  | controlParameter
  | controlMiddle
  /-- In a control sequence that is not well formed. -/
  | controlIgnored
  /-- At the beginning of a string for the device. -/
  | deviceEntry
  | deviceParameter
  | deviceMiddle
  | deviceIgnored
  | deviceData
  /-- In a command to the system. -/
  | command
  /-- In a string for others, such as a title. -/
  | message
deriving DecidableEq, Repr

/-- The control characters that a text may be laid out with. -/
def isLayout (c : Char) : Bool :=
  c == '\t' || c == '\n' || c == '\r' || c == '\x0c'

namespace Mode

/-- Whether a control character that stands inside a sequence is obeyed. -/
def obeys : Mode → Bool
  | .ground | .escape | .escapeMiddle | .controlEntry | .controlParameter | .controlMiddle
  | .controlIgnored => true
  | _ => false

def shows (mode : Mode) (c : Char) : Bool :=
  if c.toNat < 0x20 then isLayout c && mode.obeys
  else mode == .ground && c.toNat ≠ 0x7F

/-- The sequence that begins with an escape character and one more. -/
def afterEscape (n : Nat) : Mode :=
  if n < 0x30 then .escapeMiddle
  else if n = 0x50 then .deviceEntry
  else if n = 0x5B then .controlEntry
  else if n = 0x5D then .command
  else if n = 0x58 ∨ n = 0x5E ∨ n = 0x5F then .message
  else .ground

/-- The sequence behind a character that is neither a control nor beyond
ASCII. -/
def afterGraphic (mode : Mode) (n : Nat) : Mode :=
  match mode with
  | .ground => .ground
  | .escape => afterEscape n
  | .escapeMiddle => if n < 0x30 then .escapeMiddle else .ground
  | .controlEntry =>
    if n < 0x30 then .controlMiddle else if n < 0x40 then .controlParameter else .ground
  | .controlParameter =>
    if n < 0x30 then .controlMiddle
    else if n < 0x3C then .controlParameter
    else if n < 0x40 then .controlIgnored
    else .ground
  | .controlMiddle =>
    if n < 0x30 then .controlMiddle else if n < 0x40 then .controlIgnored else .ground
  | .controlIgnored => if n < 0x40 then .controlIgnored else .ground
  | .deviceEntry =>
    if n < 0x30 then .deviceMiddle else if n < 0x40 then .deviceParameter else .deviceData
  | .deviceParameter =>
    if n < 0x30 then .deviceMiddle
    else if n < 0x3C then .deviceParameter
    else if n < 0x40 then .deviceIgnored
    else .deviceData
  | .deviceMiddle =>
    if n < 0x30 then .deviceMiddle else if n < 0x40 then .deviceIgnored else .deviceData
  | .deviceIgnored => .deviceIgnored
  | .deviceData => .deviceData
  | .command => .command
  | .message => .message

/-- The sequence behind a character beyond ASCII. Strings end with the control
that is a byte of its own in older encodings, also where the byte is a part of a
character. -/
def afterWide (mode : Mode) (c : Char) : Mode :=
  match mode with
  | .deviceIgnored | .deviceData | .message =>
    if (String.utf8EncodeChar c).contains 0x9C then .ground else mode
  | _ => mode

def next (mode : Mode) (c : Char) : Mode :=
  let n := c.toNat
  if mode.shows c then .ground
  else if n = 0x1B then .escape
  else if n = 0x18 ∨ n = 0x1A then .ground
  else if n = 0x07 ∧ mode = .command then .ground
  else if n < 0x20 ∨ n = 0x7F then mode
  else if n < 0x7F then mode.afterGraphic n
  else mode.afterWide c

end Mode

/-- The characters that are shown. -/
def visible (mode : Mode) : List Char → List Char
  | [] => []
  | c :: rest =>
    if mode.shows c then c :: visible (mode.next c) rest else visible (mode.next c) rest

def plain (text : String) : String :=
  String.ofList (visible .ground text.toList)

theorem visible_eq_self {cs : List Char} (h : ∀ c ∈ cs, Mode.ground.shows c = true) :
    visible .ground cs = cs := by
  induction cs with
  | nil => rfl
  | cons c rest ih =>
    have hc : Mode.ground.shows c = true := h c (List.mem_cons_self ..)
    have hnext : Mode.ground.next c = .ground := by simp [Mode.next, hc]
    rw [visible, if_pos hc, hnext, ih fun d hd => h d (List.mem_cons_of_mem _ hd)]

def bold (text : String) : String :=
  "\x1b[1m" ++ text ++ "\x1b[0m"

/-- A text in bold face with a line below it. -/
def heading (text : String) : String :=
  "\x1b[1m\x1b[4m" ++ text ++ "\x1b[0m"

end Terminal

end Vitae
