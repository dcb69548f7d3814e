/-!
# YAML tokens

The signs and scalars that a YAML text consists of. Blocks, which a text shows by its columns alone,
have tokens of their own for where they start and end.

## Main definitions

* `Yaml.Token`: the tokens
-/

namespace WorkQueue.Yaml

/-- A tag as it is written: a handle, and what follows it. -/
structure TagName where
  handle : String
  suffix : String
  deriving DecidableEq, Inhabited

/-- A part of a text. -/
inductive Token where
  /-- The end of the text. -/
  | streamEnd
  /-- A line that names the version of the language. -/
  | version
  /-- A line that says what a handle of tags stands for. -/
  | tagHandle (handle expansion : String)
  | documentStart
  | documentEnd
  | blockSequenceStart
  | blockMappingStart
  | blockEnd
  | blockEntry
  | flowSequenceStart
  | flowSequenceEnd
  | flowMappingStart
  | flowMappingEnd
  | flowEntry
  /-- What follows is a key. -/
  | key
  /-- What follows is the value of a key. -/
  | value
  | alias (name : String)
  | anchor (name : String)
  | tag (name : TagName)
  /-- A scalar; `plain` ones have neither quotes nor a block of their own. -/
  | scalar (plain : Bool) (text : String)
  deriving DecidableEq, Inhabited

end WorkQueue.Yaml
