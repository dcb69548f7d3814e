import WorkQueue.CommandLine.Grammar

/-!
# Help texts

The text that explains a command: what it is for, how it is used, and its subcommands, arguments and
options in two columns. Lines are as long as their texts, and a text of several lines stays in the
second column.

## Main definitions

* `CommandLine.Spec.help`: the text
-/

namespace WorkQueue.CommandLine

/-- A line of two columns: a label, and the texts that explain it. -/
structure Row where
  label : String
  about : String
  /-- Where else the value may come from. -/
  notes : List String := []

/-- The text of the second column. -/
def Row.text (r : Row) : String :=
  " ".intercalate ((if r.about.isEmpty then [] else [r.about]) ++ r.notes)

def spaces (n : Nat) : String := String.ofList (List.replicate n ' ')

/-- A text whose lines after the first one start with `indent` blanks. -/
def hanging (indent : Nat) (text : String) : String :=
  ("\n" ++ spaces indent).intercalate (text.splitOn "\n")

/-- A section with its title, none without rows. -/
def renderSection (title : String) (rows : List Row) : List String :=
  if rows.isEmpty then []
  else
    let labels := (rows.map (·.label.length)).foldl max 2
    let lines := rows.map fun r =>
      s!"  {r.label}{spaces (labels + 2 - r.label.length)}{hanging (labels + 4) r.text}"
    [s!"{title}:\n" ++ "\n".intercalate lines]

/-- How an argument is written in usage lines. -/
def Parameter.usage (p : Parameter) : String :=
  if p.repeated then s!"[{p.name}]..." else s!"<{p.name}>"

/-- The row of an option; `lookup` finds the values of variables. -/
def Opt.row (lookup : String → Option String) (o : Opt) : Row where
  label := match o.short with
    | some c => s!"-{c}, --{o.long} <{o.value.name}>"
    | none => s!"    --{o.long} <{o.value.name}>"
  about := o.value.about
  notes :=
    o.fallback.toList.map (fun name => "[env: " ++ name ++ "=" ++ (lookup name).getD "" ++ "]") ++
      o.default.toList.map fun value => s!"[default: {value}]"

namespace Spec

/-- The rows of the subcommands. -/
def commandRows (spec : Spec) : List Row :=
  if spec.subcommands.isEmpty then []
  else spec.subcommands.map (fun sub => ⟨sub.name, sub.about, []⟩) ++ [⟨"help", helpAbout, []⟩]

/-- The rows of the options. -/
def optionRows (spec : Spec) (lookup : String → Option String) : List Row :=
  spec.options.map (Opt.row lookup) ++
    (if spec.offersHelp then [⟨"-h, --help", "Print help", []⟩] else []) ++
    spec.version.toList.map fun _ => ⟨"-V, --version", "Print version", []⟩

/-- The line that shows how a command is used. -/
def usage (spec : Spec) (path : List String) : String :=
  " ".intercalate (["Usage:"] ++ path ++
    (if spec.options.isEmpty then [] else ["[OPTIONS]"]) ++
    spec.positionals.map Parameter.usage ++
    (if spec.subcommands.isEmpty then [] else ["<COMMAND>"]))

/-- The help of a command that the given names lead to. -/
def help (spec : Spec) (path : List String) (lookup : String → Option String) : String :=
  let arguments := spec.positionals.map fun p => ⟨p.usage, p.about, []⟩
  "\n\n".intercalate ([spec.about, spec.usage path] ++
    renderSection "Commands" spec.commandRows ++ renderSection "Arguments" arguments ++
    renderSection "Options" (spec.optionRows lookup)) ++ "\n"

end Spec

end WorkQueue.CommandLine
