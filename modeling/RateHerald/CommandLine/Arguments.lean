import RateHerald.Mailbox
import RateHerald.Pair

/-!
# Arguments

An argument list names one command. Options that hold for every command stand before or after its
name, and those after it win. A word that starts with a hyphen is an option, unless two hyphens
stand alone before it: after those every word is taken as it is. Whatever does not fit makes the
whole list unfit, and the first thing that stops the reading is told: a word that does not fit, or
the wish for help. A value that stands in a word of its own is looked at only when the next option
comes or the list ends; so what follows the name of a command can stop the reading before it.

## Main declarations

* `Command` and `Arguments` are what can be asked for.
* `Verb` is the name of a command, `HelpTopic` what help can be about.
* `Word` is the form of one argument, `Given` what was read of the options.
* `Arguments.parse` reads an argument list.
-/

namespace RateHerald

/-- What can be done. -/
inductive Command where
  /-- Prints the rate, and the counts of the services if these are wanted too. -/
  | rate (stats : Bool)
  /-- Subscribes a mailbox. -/
  | subscribe (mailbox : Mailbox)
  /-- Lists the subscriptions. -/
  | subscribers
  /-- Mails the rate to the subscribers. -/
  | send
deriving Repr, DecidableEq

/-- What is asked for. -/
structure Arguments where
  /-- The directory for records, if one is named. -/
  dataDir : Option String
  /-- The pair, if one is named. -/
  topic : Option Pair
  /-- What is to be done. -/
  command : Command
deriving Repr, DecidableEq

/-! ## Names of commands -/

/-- The name of a command. -/
inductive Verb where
  /-- See `Command.rate`. -/
  | rate
  /-- See `Command.subscribe`. -/
  | subscribe
  /-- See `Command.subscribers`. -/
  | subscribers
  /-- See `Command.send`. -/
  | send
deriving Repr, DecidableEq

/-- The command of a name. -/
def Verb.ofName? : String → Option Verb
  | "rate" => some .rate
  | "subscribe" => some .subscribe
  | "subscribers" => some .subscribers
  | "send" => some .send
  | _ => none

/-- What help can be about. -/
inductive HelpTopic where
  /-- The whole program. -/
  | program
  /-- One command. -/
  | command (verb : Verb)
  /-- Help itself. -/
  | help
deriving Repr, DecidableEq

namespace HelpTopic

/-- What help is about where only options of a command, or only general ones, can stand. -/
def ofPlace : Option Verb → HelpTopic
  | none => program
  | some verb => command verb

/-- What help is about when it is asked for by name, with the words behind that name. -/
def named? : List String → Option HelpTopic
  | [] => some program
  | [name] => if name = "help" then some help else (Verb.ofName? name).map command
  | _ => none

end HelpTopic

/-- Why there is nothing to be done. -/
inductive Unfit where
  /-- Only help is asked for. -/
  | help (topic : HelpTopic)
  /-- The arguments do not fit. -/
  | misuse
deriving Repr, DecidableEq

/-! ## Words -/

/-- The form of one argument. -/
inductive Word where
  /-- Two hyphens alone. -/
  | hyphens
  /-- A long option, after two hyphens, and the value behind its equals sign. -/
  | long (name : String) (value : Option String)
  /-- Short options, after one hyphen. -/
  | short (first : Char) (tail : List Char)
  /-- Any other word. -/
  | plain
deriving Repr, DecidableEq

namespace Word

/-- The form of an argument. -/
def ofText (s : String) : Word :=
  match s.toList with
  | ['-', '-'] => .hyphens
  | '-' :: '-' :: cs =>
    let name := String.ofList (cs.takeWhile (· ≠ '='))
    match cs.dropWhile (· ≠ '=') with
    | [] => .long name none
    | _ :: value => .long name (some (String.ofList value))
  | '-' :: c :: cs => .short c cs
  | _ => .plain

end Word

/-! ## Options -/

/-- The name of an option. -/
inductive OptionName where
  /-- The directory for records. -/
  | dataDir
  /-- The pair. -/
  | topic
  /-- The counts of the services. -/
  | stats
  /-- Help. -/
  | help
deriving Repr, DecidableEq

namespace OptionName

/-- Whether a value belongs to an option. -/
def takesValue : OptionName → Bool
  | .dataDir | .topic => true
  | .stats | .help => false

/-- The option of a long name, before the name of a command or behind it. -/
def ofLong? (verb : Option Verb) : String → Option OptionName
  | "data-dir" => some .dataDir
  | "topic" => some .topic
  | "stats" => if verb = some .rate then some .stats else none
  | "help" => some .help
  | _ => none

/-- The option of a letter. -/
def ofLetter? : Char → Option OptionName
  | 't' => some .topic
  | 'h' => some .help
  | _ => none

end OptionName

/-- What was read before the name of the command, or behind it. -/
structure Given where
  /-- The directory for records. -/
  dataDir : Option String
  /-- The pair. -/
  topic : Option Pair
  /-- Whether the counts of the services are wanted. -/
  stats : Bool
  /-- The mailbox. -/
  mailbox : Option Mailbox
deriving Repr, DecidableEq

namespace Given

/-- Nothing was read. -/
def nothing : Given :=
  ⟨none, none, false, none⟩

/-- Takes an option that has no value. No option is given twice. -/
def setFlag (g : Given) (verb : Option Verb) : OptionName → Except Unfit Given
  | .help => .error (.help (.ofPlace verb))
  | .stats => if g.stats then .error .misuse else .ok { g with stats := true }
  | .dataDir | .topic => .error .misuse

/-- Takes an option that has a value. -/
def setValue (g : Given) (value : String) : OptionName → Except Unfit Given
  | .dataDir =>
    if g.dataDir.isSome || value.isEmpty then .error .misuse
    else .ok { g with dataDir := some value }
  | .topic =>
    match g.topic, Pair.parse value with
    | none, .ok pair => .ok { g with topic := some pair }
    | _, _ => .error .misuse
  | .stats | .help => .error .misuse

/-- Takes a word that is no option: only a mailbox can be subscribed, and only one. -/
def setWord (g : Given) (verb : Option Verb) (word : String) : Except Unfit Given :=
  match verb, g.mailbox, Mailbox.parse word with
  | some .subscribe, none, .ok mailbox => .ok { g with mailbox := some mailbox }
  | _, _, _ => .error .misuse

/-- Takes an option as it stands in one word; an option that still waits for its value is told. -/
def setOption (g : Given) (verb : Option Verb) (option : OptionName) (value : Option String) :
    Except Unfit (Given × Option OptionName) :=
  match option.takesValue, value with
  | true, none => .ok (g, some option)
  | true, some value => (g.setValue value option).map fun g => (g, none)
  | false, none => (g.setFlag verb option).map fun g => (g, none)
  | false, some _ => .error .misuse

/-- The value that follows the letter of an option in the same word. -/
def attached : List Char → Option String
  | [] => none
  | '=' :: value => some (String.ofList value)
  | value => some (String.ofList value)

/-- Takes one word; an option that still waits for its value is told. -/
def setWordOrOption (g : Given) (verb : Option Verb) (word : String) :
    Except Unfit (Given × Option OptionName) :=
  match Word.ofText word with
  | .long name value =>
    match OptionName.ofLong? verb name with
    | some option => g.setOption verb option value
    | none => .error .misuse
  | .short letter tail =>
    match OptionName.ofLetter? letter with
    | some .help => .error (.help (.ofPlace verb))
    | some option => g.setOption verb option (attached tail)
    | none => .error .misuse
  | .plain | .hyphens => (g.setWord verb word).map fun g => (g, none)

/-- Reads what stands behind the name of a command. An option that waits for its value takes the
next word, if that is no option itself. -/
def readBehind (verb : Verb) (g : Given) (waiting : Option OptionName) :
    List String → Except Unfit Given
  | [] => if waiting.isSome then .error .misuse else .ok g
  | word :: rest =>
    match waiting, Word.ofText word with
    | some option, .plain =>
      match g.setValue word option with
      | .ok g => readBehind verb g none rest
      | .error e => .error e
    | some _, _ => .error .misuse
    | none, .hyphens => rest.foldlM (fun g word => g.setWord (some verb) word) g
    | none, _ =>
      match g.setWordOrOption (some verb) word with
      | .ok (g, waiting) => readBehind verb g waiting rest
      | .error e => .error e

/-- Why the reading stops when a value before `rest` does not fit: the name of a command that
follows it at once, and all that follows that name, are read first. -/
def stopBefore : List String → Unfit
  | [] => .misuse
  | word :: rest =>
    match Verb.ofName? word with
    | some verb =>
      match nothing.readBehind verb none rest with
      | .error unfit => unfit
      | .ok _ => .misuse
    | none => stopAt word rest
where
  /-- Why the reading stops at a word that is not the name of a command. -/
  stopAt (word : String) (rest : List String) : Unfit :=
    if word = "help" then ((HelpTopic.named? rest).map Unfit.help).getD .misuse else .misuse

/-- Reads up to the name of a command; what stands behind it is left. -/
def readBefore (g : Given) (waiting : Option OptionName) :
    List String → Except Unfit (Given × Verb × List String)
  | [] => .error .misuse
  | word :: rest =>
    match waiting, Word.ofText word with
    | some option, .plain =>
      match g.setValue word option with
      | .ok g => readBefore g none rest
      | .error _ => .error (stopBefore rest)
    | some _, _ => .error .misuse
    | none, .plain =>
      match Verb.ofName? word with
      | some verb => .ok (g, verb, rest)
      | none => .error (stopBefore.stopAt word rest)
    | none, _ =>
      match g.setWordOrOption none word with
      | .ok (g, waiting) => readBefore g waiting rest
      | .error e => .error e

end Given

/-! ## Argument lists -/

namespace Arguments

/-- The command of a name, with what was read behind it. -/
def commandOf (g : Given) : Verb → Except Unfit Command
  | .rate => .ok (.rate g.stats)
  | .subscribe =>
    match g.mailbox with
    | some mailbox => .ok (.subscribe mailbox)
    | none => .error .misuse
  | .subscribers => .ok .subscribers
  | .send => .ok .send

/-- Reads an argument list. -/
def parse (words : List String) : Except Unfit Arguments := do
  let (general, verb, rest) ← Given.nothing.readBefore none words
  let special ← Given.nothing.readBehind verb none rest
  return ⟨special.dataDir <|> general.dataDir, special.topic <|> general.topic,
    ← commandOf special verb⟩

end Arguments

end RateHerald
