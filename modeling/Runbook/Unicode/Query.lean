import Runbook.Unicode.Break
import Runbook.Unicode.Script
/-! Questions for the characters of a name, or of a value of a property. -/
namespace Runbook.Unicode

/-- The characters of the categories of a name, as far as there are any. -/
def category? (name : String) : Option CharSet :=
  match name with
  | "any" => some .full
  | "ascii" => some (.ofRange 0 0x7F)
  | "assigned" => some (Category.set .sixteen .unassigned).compl
  | _ =>
    match (.unassigned :: Category.listed).find? fun c => c.names.any (loose · == name) with
    | some c => some (Category.set .sixteen c)
    | none => (find? Category.groups name).map fun cs =>
        .unions (cs.map (Category.set .sixteen))

def script? (name : String) : Option CharSet := (find? Script.scripts name).map set

/-- The characters that are used in a script. -/
def extendedScript? (name : String) : Option CharSet :=
  (Script.scripts.find? fun e => e.1.any (loose · == name)).map fun e =>
    Script.extended (e.1.head?.getD "") (set e.2)

/-- The characters since a version, which may be named by a word as well. -/
def age? (name : String) : Option CharSet :=
  (Age.versions.find? fun e =>
    e.1 == name || "v" ++ String.ofList (e.1.toList.filter (· ≠ '.')) == name).bind fun e =>
      if e.1 == "17.0" then none else Age.through? e.1

/-- The characters of a single name. Some short names are those of categories first. -/
def named? (spelled : String) : Option CharSet :=
  let name := loose spelled
  let property := if name = "cf" ∨ name = "sc" ∨ name = "lc" then none else Property.set? name
  (property.or (category? name)).or (script? name)

/-- The characters that have a value of a property. -/
def valued? (property value : String) : Option CharSet :=
  let value := loose value
  match loose property with
  | "gc" | "generalcategory" => category? value
  | "sc" | "script" => script? value
  | "scx" | "scriptextensions" => extendedScript? value
  | "age" => age? value
  | "gcb" | "graphemeclusterbreak" => Break.grapheme? value
  | "wb" | "wordbreak" => Break.word? value
  | "sb" | "sentencebreak" => Break.sentence? value
  | _ => none

end Runbook.Unicode
