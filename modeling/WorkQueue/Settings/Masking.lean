import WorkQueue.Settings.Sections

/-!
# Settings without secrets

Settings are shown with the password of the database address masked.

## Main definitions

* `Settings.maskPassword`: an address without its password
* `Settings.sanitized`: settings without secrets
-/

namespace WorkQueue.Settings

/-- A text split before the first place where a mark stands, if there is one. -/
def splitAtMark (mark : List Char) : List Char → Option (List Char × List Char)
  | [] => if mark.isEmpty then some ([], []) else none
  | c :: cs =>
    if mark.isPrefixOf (c :: cs) then some ([], c :: cs)
    else (splitAtMark mark cs).map fun (before, after) => (c :: before, after)

/-- What stands before and after the last `@` of a text, if there is one. -/
def splitAtHost (cs : List Char) : Option (List Char × List Char) :=
  (splitAtMark ['@'] cs.reverse).map fun (after, before) =>
    ((before.drop 1).reverse, after.reverse)

/-- The characters of an address with its password masked. The credentials stand between the first
`://` and the last `@`, and the password follows their first colon. -/
def maskCharacters (url : List Char) : List Char :=
  match splitAtMark [':', '/', '/'] url with
  | none => url
  | some (scheme, marked) =>
    match splitAtHost (marked.drop 3) with
    | none => url
    | some (credentials, host) =>
      match splitAtMark [':'] credentials with
      | none => url
      | some (user, _) =>
        scheme ++ [':', '/', '/'] ++ user ++ [':', '*', '*', '*', '@'] ++ host

/-- An address with its password masked; one without a password stays as it is. -/
def maskPassword (url : String) : String := String.ofList (maskCharacters url.toList)

/-- The settings with the password of the database address masked. -/
def sanitized (s : Settings) : Settings :=
  { s with database := { s.database with url := maskPassword s.database.url } }

end WorkQueue.Settings
