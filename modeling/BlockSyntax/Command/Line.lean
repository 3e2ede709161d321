import BlockSyntax.Text.Decimal

/-!
# Command-line words

A `Grammar` names the options and the positional slots of a command.  `Grammar.read` reads a list
of words by the usual conventions:

* a word that starts with `-` and is not `-` alone is an option word; `--` ends the options, and
  every word after it is positional;
* a long option (`--name`) may be shortened to any beginning that no other long option shares,
  and may carry its value after `=`; a beginning that several share is an error;
* a short option (`-x`) may carry its value in the rest of the word, and short switches may be
  run together (`-vv`), every letter naming an option;
* a word like `-1` or `-.5`, or one with a space, is positional when no option matches it;
* an option that takes a value takes the next word, which must be positional, and the value must
  be one of the option's choices if it has any;
* positional words fill the slots in order.  Each run of positional words before an option fills
  as many slots as it can, and a slot that may be empty is filled empty when the run ends;
* a positional word that no slot takes is left over, and so is an option word the grammar does not
  know.

The help option ends reading at once.  Every other fault is a usage error.
-/

namespace BlockSyntax.Command

/-- What an option does. -/
inductive Action where
  /-- Asks for help: reading stops. -/
  | help
  /-- A switch: takes no value. -/
  | flag
  /-- Takes one value, out of `choices` if there are any; every use adds one value. -/
  | value (choices : Option (List String))
  deriving DecidableEq, Repr

/-- An option: its names in the order they are declared, the key its values are filed under, and
what it does. -/
structure OptionSpec where
  names : List String
  key : String
  action : Action
  deriving DecidableEq, Repr

/-- How many words a positional slot takes. -/
inductive Arity where
  | one
  | optional
  deriving DecidableEq, Repr

/-- A positional slot. -/
structure Slot where
  key : String
  arity : Arity
  deriving DecidableEq, Repr

/-- The options and slots of a command. -/
structure Grammar where
  options : List OptionSpec
  slots : List Slot
  deriving Repr

/-- An option recognised in a word: the option, the name it was given by, and the text attached to
the name in the word (after `=`, or the rest of a short option's word). -/
structure Hit where
  spec : OptionSpec
  name : String
  attached : Option (List Char)
  deriving Repr

/-- A word as the reader sees it. -/
inductive Word where
  /-- A positional word. -/
  | plain (s : String)
  /-- The first `--`: no option words after it. -/
  | stop
  /-- An option word the grammar knows. -/
  | known (h : Hit) (s : String)
  /-- An option word the grammar does not know. -/
  | unknown (s : String)
  deriving Repr

namespace Word

/-- The word as it was given. -/
def text : Word → String
  | plain s => s
  | stop => "--"
  | known _ s => s
  | unknown s => s

/-- Whether the word is an option word. -/
def isOption : Word → Bool
  | known _ _ => true
  | unknown _ => true
  | _ => false

end Word

/-- Why reading stopped early. -/
inductive Stop where
  /-- The help option was given. -/
  | help
  /-- The words break the grammar. -/
  | usage
  deriving DecidableEq, Repr

/-- Whether a word reads as a negative number: `-` and digits, or `-`, digits, `.` and at least
one digit, where a digit is a decimal digit of any script.  One line end may follow, as the end
of a line of text may. -/
def looksNegative (s : String) : Bool :=
  let cs := if s.toList.getLast? = some '\n' then s.toList.dropLast else s.toList
  match cs with
  | '-' :: rest =>
    let whole := rest.takeWhile Text.isDecimal
    match rest.drop whole.length with
    | [] => !whole.isEmpty
    | '.' :: frac => !frac.isEmpty && frac.all Text.isDecimal
    | _ => false
  | _ => false

namespace Grammar

/-- The option names of a grammar with their options, in declaration order. -/
def table (g : Grammar) : List (String × OptionSpec) :=
  g.options.flatMap fun o => o.names.map (·, o)

/-- The option a name names exactly. -/
def lookup (g : Grammar) (name : String) : Option OptionSpec :=
  (g.table.find? (·.1 = name)).map (·.2)

/-- The options a word may stand for when it names none exactly.  A long word names the long
options it begins (up to an `=`); a short word names the option of its first letter, with the
rest of the word attached, and the options it begins. -/
def candidates (g : Grammar) (s : String) : List Hit :=
  match s.toList with
  | '-' :: '-' :: _ =>
    let cs := s.toList
    let before := cs.takeWhile (· ≠ '=')
    let attached := match cs.drop before.length with
      | '=' :: after => some after
      | _ => none
    g.table.filterMap fun (name, o) =>
      if before.isPrefixOf name.toList then some ⟨o, name, attached⟩ else none
  | '-' :: c :: rest =>
    g.table.filterMap fun (name, o) =>
      if name.toList = ['-', c] then some ⟨o, name, some rest⟩
      else if s.toList.isPrefixOf name.toList then some ⟨o, name, none⟩
      else none
  | _ => []

/-- How the grammar reads one word that comes before any `--`. -/
def classify (g : Grammar) (s : String) : Except Stop Word :=
  match s.toList with
  | '-' :: _ :: _ =>
    match g.lookup s with
    | some o => .ok (.known ⟨o, s, none⟩ s)
    | none =>
      let cs := s.toList
      let before := String.ofList (cs.takeWhile (· ≠ '='))
      let exact := match cs.drop before.length with
        | '=' :: after => (g.lookup before).map fun o => Hit.mk o before (some after)
        | _ => none
      match exact with
      | some h => .ok (.known h s)
      | none =>
        match g.candidates s with
        | [h] => .ok (.known h s)
        | _ :: _ :: _ => .error .usage
        | [] => .ok (if looksNegative s || s.contains ' ' then .plain s else .unknown s)
  | ['-'] => match g.lookup s with
    | some o => .ok (.known ⟨o, s, none⟩ s)
    | none => .ok (.plain s)
  | _ => .ok (.plain s)

/-- How the grammar reads a list of words: up to the first `--` by `classify`, after it all
positional. -/
def words (g : Grammar) : List String → Except Stop (List Word)
  | [] => .ok []
  | "--" :: rest => .ok (.stop :: rest.map .plain)
  | s :: rest => do
    let w ← g.classify s
    let ws ← g.words rest
    pure (w :: ws)

end Grammar

/-- What a reading has gathered. -/
structure Tally where
  /-- The keys of the switches given, once per use. -/
  switches : List String
  /-- The values of the options that take one, with their keys, in order.  The value `--` is
  dropped as the end-of-options marker would be, which leaves the option without a value. -/
  values : List (String × Option String)
  /-- The filled slots with their words; an empty optional slot holds the empty word. -/
  filled : List (String × String)
  /-- The words left over. -/
  extras : List String
  deriving Repr

namespace Tally

/-- Nothing gathered. -/
def empty : Tally := ⟨[], [], [], []⟩

/-- Whether a switch was given. -/
def has (t : Tally) (key : String) : Bool :=
  t.switches.contains key

/-- The last value given for a key; `none` also when the last use was left without a value. -/
def last? (t : Tally) (key : String) : Option String :=
  (t.values.filter (·.1 = key)).getLast?.bind (·.2)

/-- The values given for a key, in order. -/
def valuesOf (t : Tally) (key : String) : List String :=
  t.values.filterMap fun (k, v) => if k = key then v else none

/-- The word a slot holds. -/
def slot? (t : Tally) (key : String) : Option String :=
  (t.filled.find? (·.1 = key)).map (·.2)

end Tally

/-- The uses of options that one option word makes, in order, each with its value, and how many of
the `following` words the option took as its value.  `attached` is the text attached to the
option's name, `single` whether the option was named with one dash.

A switch named with one dash reads the first attached letter as the next short option, and so on
along the word (`-vx` is `-v -x`); a letter that names no option, or text attached to a switch
named with two dashes, is a usage error.  An option that takes a value takes the attached text
whole, or else the next word. -/
def cluster (g : Grammar) (o : OptionSpec) (single : Bool) (attached : Option (List Char))
    (following : List Word) : Except Stop (List (OptionSpec × Option String) × Nat) :=
  match attached with
  | none =>
    match o.action with
    | .value _ =>
      match following with
      | .plain v :: _ => .ok ([(o, some v)], 1)
      | _ => .error .usage
    | _ => .ok ([(o, none)], 0)
  | some v =>
    match o.action with
    | .value _ => .ok ([(o, some (String.ofList v))], 0)
    | _ =>
      match single, v with
      | true, c :: more =>
        match g.lookup (String.ofList ['-', c]) with
        | some o' =>
          (cluster g o' true (if more.isEmpty then none else some more) following).map
            fun (uses, n) => ((o, none) :: uses, n)
        | none => .error .usage
      | _, _ => .error .usage
termination_by attached.map List.length |>.getD 0
decreasing_by
  all_goals simp_wf
  all_goals (split <;> simp)

/-- Files the uses of options in order; help stops, and a value outside the choices is a usage
error.  A value `--` (which only `--name=--` can give) is dropped unchecked. -/
def Tally.use (t : Tally) : List (OptionSpec × Option String) → Except Stop Tally
  | [] => .ok t
  | (o, v) :: rest =>
    match o.action, v with
    | .help, _ => .error .help
    | .flag, _ => Tally.use { t with switches := t.switches ++ [o.key] } rest
    | .value choices, some v =>
      if v = "--" then Tally.use { t with values := t.values ++ [(o.key, none)] } rest
      else if choices.all (v ∈ ·) then Tally.use { t with values := t.values ++ [(o.key, some v)] } rest
      else .error .usage
    | .value _, none => .error .usage

/-- Whether an option was named with one dash. -/
def Hit.single (h : Hit) : Bool :=
  match h.name.toList with
  | '-' :: c :: _ => c ≠ '-'
  | _ => false

/-- Reads one known option word followed by `following`: the tally after its uses, and how many
of the following words it took as its value. -/
def Grammar.option (g : Grammar) (h : Hit) (following : List Word) (t : Tally) :
    Except Stop (Tally × Nat) :=
  match cluster g h.spec h.single h.attached following with
  | .error e => .error e
  | .ok (uses, n) => (t.use uses).map fun t' => (t', n)

/-- The words a slot takes from the front of a run, as many as it can: any `--` around its word,
and one positional word (for an optional slot, at most one).  `none` when a slot that needs a word
finds none. -/
def takeSlot (arity : Arity) (ws : List Word) : Option (List Word × List Word) :=
  let lead := ws.takeWhile fun w => match w with | .stop => true | _ => false
  let rest := ws.drop lead.length
  let (word, rest) := match rest with
    | .plain s :: more => ([Word.plain s], more)
    | _ => ([], rest)
  if arity = .one && word.isEmpty then none
  else
    let trail := rest.takeWhile fun w => match w with | .stop => true | _ => false
    some (lead ++ word ++ trail, rest.drop trail.length)

/-- The word a slot holds: its words without the first `--`; empty if none is left. -/
def slotValue (taken : List Word) : String :=
  let texts := taken.map Word.text
  let texts := texts.erase "--"
  texts.headD ""

/-- Fills slots in order from the front of `ws`, as many as can be filled.  The result is the
number of words taken, the filled slots, and the slots still open. -/
def fillSlots : List Slot → List Word → Nat × List (String × String) × List Slot
  | [], _ => (0, [], [])
  | slot :: more, ws =>
    match takeSlot slot.arity ws with
    | none => (0, [], slot :: more)
    | some (taken, rest) =>
      let (n, filled, open_) := fillSlots more rest
      (taken.length + n, (slot.key, slotValue taken) :: filled, open_)

/-- Reads classified words with the slots `slots` still open. -/
def Grammar.consume (g : Grammar) (ws : List Word) (slots : List Slot) (t : Tally) :
    Except Stop (Tally × List Slot) :=
  if ws.any Word.isOption then
    match ws with
    | [] => .ok (t, slots)
    | .known h _ :: rest =>
      match g.option h rest t with
      | .error e => .error e
      | .ok (t', n) => g.consume (rest.drop n) slots t'
    | .unknown s :: rest => g.consume rest slots { t with extras := t.extras ++ [s] }
    | w :: rest =>
      let (n, filled, open_) := fillSlots slots (w :: rest)
      if 0 < n then
        g.consume ((w :: rest).drop n) open_ { t with filled := t.filled ++ filled }
      else
        -- no open slot takes the word: it is left over
        g.consume rest open_ { t with filled := t.filled ++ filled, extras := t.extras ++ [w.text] }
  else
    let (n, filled, open_) := fillSlots slots ws
    .ok ({ t with filled := t.filled ++ filled, extras := t.extras ++ (ws.drop n).map Word.text },
      open_)
termination_by ws.length
decreasing_by
  all_goals simp only [List.length_cons, List.length_drop]
  all_goals omega

/-- Reads a command's words: the tally, or why reading stopped.  A slot that needs a word and gets
none is a usage error. -/
def Grammar.read (g : Grammar) (args : List String) : Except Stop Tally := do
  let ws ← g.words args
  let (t, open_) ← g.consume ws g.slots Tally.empty
  if open_.any (·.arity = .one) then .error .usage
  else
    pure { t with filled := t.filled ++ open_.map fun s => (s.key, "") }

end BlockSyntax.Command
