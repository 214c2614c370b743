import RateHerald.CommandLine.Arguments

/-!
# Help

Help tells what a topic is about, how it is used, and then, section by section, what can be said:
commands, arguments and options. In a section each name stands before its explanation, and all
explanations begin in one column.

## Main declarations

* `HelpTopic.summary`, `HelpTopic.usage` and `HelpTopic.sections` are the parts.
* `HelpTopic.lines` is the whole help.
-/

namespace RateHerald

/-- The name of a command. -/
def Verb.name : Verb → String
  | .rate => "rate"
  | .subscribe => "subscribe"
  | .subscribers => "subscribers"
  | .send => "send"

/-- What a command does. -/
def Verb.summary : Verb → String
  | .rate => "Print the current exchange rate"
  | .subscribe => "Subscribe an address to rate notifications"
  | .subscribers => "List stored subscriptions"
  | .send => "Send the current rate to every subscriber of the topic"

/-- All commands. -/
def Verb.all : List Verb :=
  [.rate, .subscribe, .subscribers, .send]

/-- How an option is written, and what it means. -/
def OptionName.explained : OptionName → String × String
  | .dataDir => ("    --data-dir <DATA_DIR>",
      "Subscription store directory (overrides XRATE_DATA_DIR)")
  | .stats => ("    --stats", "Also print per-provider counters as JSON")
  | .topic => ("-t, --topic <TOPIC>", "Currency pair, e.g. BTC/UAH (overrides XRATE_TOPIC)")
  | .help => ("-h, --help", "Print help")

namespace HelpTopic

/-- What help itself does. -/
def helpSummary : String :=
  "Print this message or the help of the given subcommand(s)"

/-- What the topic does. -/
def summary : HelpTopic → String
  | program => "Exchange-rate lookup with fallback providers and e-mail notifications"
  | command verb => verb.summary
  | help => helpSummary

/-- How the topic is used. -/
def usage : HelpTopic → String
  | program => "xrate [OPTIONS] <COMMAND>"
  | command .subscribe => "xrate subscribe [OPTIONS] <EMAIL>"
  | command verb => "xrate " ++ verb.name ++ " [OPTIONS]"
  | help => "xrate help [COMMAND]..."

/-- What can be said to a topic: titles, and names with their explanations. -/
def sections : HelpTopic → List (String × List (String × String))
  | program =>
    [("Commands", Verb.all.map (fun verb => (verb.name, verb.summary)) ++ [("help", helpSummary)]),
      optionSection []]
  | command .subscribe => [("Arguments", [("<EMAIL>", "E-mail address")]), optionSection []]
  | command .rate => [optionSection [.stats]]
  | command .subscribers | command .send => [optionSection []]
  | help => [("Arguments", [("[COMMAND]...", "Print help for the subcommand(s)")])]
where
  /-- The options, with those of one command among the general ones. -/
  optionSection (own : List OptionName) : String × List (String × String) :=
    let options : List OptionName := .dataDir :: own ++ [.topic, .help]
    ("Options", options.map OptionName.explained)

/-- Names and explanations in two columns. -/
def columns (rows : List (String × String)) : List String :=
  let width := (rows.map fun row => row.1.length).foldr max 0
  rows.map fun (name, explanation) =>
    "  " ++ name ++ String.ofList (List.replicate (width - name.length + 2) ' ') ++ explanation

/-- The help on a topic. -/
def lines (topic : HelpTopic) : List String :=
  [topic.summary, "", "Usage: " ++ topic.usage] ++
    topic.sections.flatMap fun (title, rows) => ["", title ++ ":"] ++ columns rows

end HelpTopic

end RateHerald
