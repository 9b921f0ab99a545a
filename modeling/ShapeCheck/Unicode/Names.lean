import ShapeCheck.Unicode.Age
import ShapeCheck.Unicode.Break
import ShapeCheck.Unicode.ScriptExtension

/-!
# Names of properties

Names are compared loosely: without regard to case, blanks, hyphens, underscores, characters
beyond ASCII, and `is` at the start.

* `normalizedName`: the form in which names are compared;
* `category?`, `script?`: a general category or a script by name;
* `property?`: a binary property, a category or a script by its name alone;
* `propertyValue?`: by the name of a property and that of its value.
-/

namespace ShapeCheck.Unicode

/-- A name in the form in which names are compared. -/
def normalizedName (name : List Char) : String :=
  let core : List Char := match name with
    | a :: b :: rest =>
      if (a = 'i' ∨ a = 'I') ∧ (b = 's' ∨ b = 'S') then rest else name
    | _ => name
  let kept := core.filter fun c => c.toNat < 128 && c ≠ ' ' && c ≠ '_' && c ≠ '-'
  let lower := kept.map Char.toLower
  if lower = ['c'] ∧ core.length < name.length then "isc" else String.ofList lower

/-- The entry of a name in a list of entries with several names each. -/
def named? {α : Type} (entries : List (List String × α)) (name : String) : Option α :=
  (entries.find? fun entry => entry.1.contains name).map Prod.snd

/-- The general categories by their normalized names.  Surrogates have none: no text has them. -/
def categories : List (List String × Coverage) := [
  (["any"], ⟨[[⟨0, 0x10FFFF, 1⟩]], []⟩),
  (["assigned"], ⟨assigned, []⟩),
  (["ascii"], ⟨[[⟨0, 0x7F, 1⟩]], []⟩),
  (["c", "other"], ⟨[[⟨0, 0x10FFFF, 1⟩]],
    letter ++ mark ++ number ++ punctuation ++ symbol ++ separator⟩),
  (["cc", "control", "cntrl"], ⟨[control], []⟩),
  (["cf", "format"], ⟨[format], []⟩),
  (["cn", "unassigned"], ⟨[[⟨0, 0x10FFFF, 1⟩]], assigned⟩),
  (["co", "privateuse"], ⟨[privateUse], []⟩),
  (["l", "letter"], ⟨letter, []⟩),
  (["lc", "casedletter"], ⟨[uppercaseLetter, lowercaseLetter, titlecaseLetter], []⟩),
  (["ll", "lowercaseletter"], ⟨[lowercaseLetter], []⟩),
  (["lm", "modifierletter"], ⟨[modifierLetter], []⟩),
  (["lo", "otherletter"], ⟨[otherLetter], []⟩),
  (["lt", "titlecaseletter"], ⟨[titlecaseLetter], []⟩),
  (["lu", "uppercaseletter"], ⟨[uppercaseLetter], []⟩),
  (["m", "mark", "combiningmark"], ⟨mark, []⟩),
  (["mc", "spacingmark"], ⟨[spacingMark], []⟩),
  (["me", "enclosingmark"], ⟨[enclosingMark], []⟩),
  (["mn", "nonspacingmark"], ⟨[nonspacingMark], []⟩),
  (["n", "number"], ⟨number, []⟩),
  (["nd", "decimalnumber", "digit"], ⟨[decimalNumber], []⟩),
  (["nl", "letternumber"], ⟨[letterNumber], []⟩),
  (["no", "othernumber"], ⟨[otherNumber], []⟩),
  (["p", "punctuation", "punct"], ⟨punctuation, []⟩),
  (["pc", "connectorpunctuation"], ⟨[connectorPunctuation], []⟩),
  (["pd", "dashpunctuation"], ⟨[dashPunctuation], []⟩),
  (["pe", "closepunctuation"], ⟨[closePunctuation], []⟩),
  (["pf", "finalpunctuation"], ⟨[finalPunctuation], []⟩),
  (["pi", "initialpunctuation"], ⟨[initialPunctuation], []⟩),
  (["po", "otherpunctuation"], ⟨[otherPunctuation], []⟩),
  (["ps", "openpunctuation"], ⟨[openPunctuation], []⟩),
  (["s", "symbol"], ⟨symbol, []⟩),
  (["sc", "currencysymbol"], ⟨[currencySymbol], []⟩),
  (["sk", "modifiersymbol"], ⟨[modifierSymbol], []⟩),
  (["sm", "mathsymbol"], ⟨[mathSymbol], []⟩),
  (["so", "othersymbol"], ⟨[otherSymbol], []⟩),
  (["z", "separator"], ⟨separator, []⟩),
  (["zl", "lineseparator"], ⟨[lineSeparator], []⟩),
  (["zp", "paragraphseparator"], ⟨[paragraphSeparator], []⟩),
  (["zs", "spaceseparator"], ⟨[spaceSeparator], []⟩)]

/-- A general category by its normalized name. -/
def category? (name : String) : Option Coverage := named? categories name

/-- A script by its normalized name. -/
def script? (name : String) : Option Coverage :=
  (named? Script.scripts name).map fun table => ⟨[table], []⟩

/-- A script with the characters that it shares, by its normalized name. -/
def scriptExtension? (name : String) : Option Coverage :=
  ((named? Script.shared name).or (named? Script.scripts name)).map fun table => ⟨[table], []⟩

/-- A binary property, a category or a script, looked up in this order by a normalized name.
Three names that also abbreviate properties stand for categories. -/
def property? (name : String) : Option Coverage :=
  let binary := if ["cf", "sc", "lc"].contains name then none else named? binaryProperties name
  (binary.or (category? name)).or (script? name)

/-- A value of a property, both by normalized names. -/
def propertyValue? (property value : String) : Option Coverage :=
  if ["gc", "generalcategory"].contains property then category? value
  else if ["sc", "script"].contains property then script? value
  else if ["scx", "scriptextensions"].contains property then scriptExtension? value
  else if property = "age" then age? value
  else if ["gcb", "graphemeclusterbreak"].contains property then named? Break.graphemeClasses value
  else if ["wb", "wordbreak"].contains property then named? Break.wordClasses value
  else if ["sb", "sentencebreak"].contains property then named? Break.sentenceClasses value
  else none

end ShapeCheck.Unicode
