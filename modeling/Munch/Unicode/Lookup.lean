import Munch.Unicode.Age
import Munch.Unicode.Property
import Munch.Unicode.Script

/-!
# Looking sets up by name

A set of characters is named by one name (a property, a general category or a script) or by a
property and its value. Case, blanks, hyphens, underscores and a leading `is` do not matter, and
only ASCII is read.

* `lookUp?`: the set with the given name.
* `lookUpValue?`: the characters for which the given property has the given value.
-/

namespace Munch.Unicode

/-- Why a name means no set. -/
inductive LookupError where
  | unknownProperty
  | unknownValue
  deriving DecidableEq, Inhabited, Repr

/-- A name without what does not matter in it. -/
def normalizeName (name : String) : String :=
  let cs := name.toList
  let (body, dropped) := match cs with
    | a :: b :: rest =>
      if (a = 'i' ∨ a = 'I') ∧ (b = 's' ∨ b = 'S') then (rest, true) else (cs, false)
    | _ => (cs, false)
  let kept := (body.filter fun c => c ≠ ' ' ∧ c ≠ '_' ∧ c ≠ '-' ∧ c.toNat < 128).map Char.toLower
  -- `isc` names a property of its own, which the prefix would turn into the category `c`.
  if dropped && kept = ['c'] then "isc" else String.ofList kept

/-- Names of properties that have values other than sets of characters, or no sets here, as
`normalizeName` leaves them: `ocomment` is what is left of `isocomment`. -/
def otherProperties : List String := [
  "cjkaccountingnumeric", "kaccountingnumeric", "cjkothernumeric", "kothernumeric",
  "cjkprimarynumeric", "kprimarynumeric", "nv", "numericvalue", "bmg", "bidimirroringglyph",
  "bpb", "bidipairedbracket", "cf", "casefolding", "cjkcompatibilityvariant",
  "kcompatibilityvariant", "dm", "decompositionmapping", "equideo", "equivalentunifiedideograph",
  "fcnfkc", "fcnfkcclosure", "lc", "lowercasemapping", "nfkccf", "nfkccasefold", "nfkcscf",
  "nfkcsimplecasefold", "scf", "simplecasefolding", "sfc", "slc", "simplelowercasemapping", "stc",
  "simpletitlecasemapping", "suc", "simpleuppercasemapping", "tc", "titlecasemapping", "uc",
  "uppercasemapping", "cjkiicore", "kiicore", "cjkirggsource", "kirggsource", "cjkirghsource",
  "kirghsource", "cjkirgjsource", "kirgjsource", "cjkirgkpsource", "kirgkpsource",
  "cjkirgksource", "kirgksource", "cjkirgmsource", "kirgmsource", "cjkirgssource", "kirgssource",
  "cjkirgtsource", "kirgtsource", "cjkirguksource", "kirguksource", "cjkirgusource",
  "kirgusource", "cjkirgvsource", "kirgvsource", "cjkrsunicode", "krsunicode",
  "unicoderadicalstroke", "urs", "isc", "ocomment", "jsn", "jamoshortname", "kehcat", "kehdesc",
  "kehhg", "kehifao", "kehjsesh", "na", "name", "na1", "unicode1name", "namealias", "blk",
  "block", "bc", "bidiclass", "bpt", "bidipairedbrackettype", "ccc", "canonicalcombiningclass",
  "dt", "decompositiontype", "ea", "eastasianwidth", "hst", "hangulsyllabletype", "incb",
  "indicconjunctbreak", "inpc", "indicpositionalcategory", "insc", "indicsyllabiccategory", "jg",
  "joininggroup", "jt", "joiningtype", "lb", "linebreak", "nfcqc", "nfcquickcheck", "nfdqc",
  "nfdquickcheck", "nfkcqc", "nfkcquickcheck", "nfkdqc", "nfkdquickcheck", "nt", "numerictype",
  "vo", "verticalorientation", "ce", "compositionexclusion", "compex", "fullcompositionexclusion",
  "cwkcf", "changeswhennfkccasefolded", "kehnomirror", "kehnorotate", "xonfc", "expandsonnfc",
  "xonfd", "expandsonnfd", "xonfkc", "expandsonnfkc", "xonfkd", "expandsonnfkd"]

/-- The properties whose values name sets of characters. -/
inductive ValuedProperty where
  | generalCategory
  | script
  | scriptExtensions
  | age
  | graphemeClusterBreak
  | wordBreak
  | sentenceBreak
  deriving DecidableEq, Inhabited, Repr

def ValuedProperty.named : List (List String × ValuedProperty) := [
  (["gc", "generalcategory"], .generalCategory),
  (["sc", "script"], .script),
  (["scx", "scriptextensions"], .scriptExtensions),
  (["age"], .age),
  (["gcb", "graphemeclusterbreak"], .graphemeClusterBreak),
  (["wb", "wordbreak"], .wordBreak),
  (["sb", "sentencebreak"], .sentenceBreak)]

/-- The valued property with the given name. -/
def ValuedProperty.find? (name : String) : Option ValuedProperty :=
  (named.find? (·.1.contains name)).map (·.2)

/-- The set for a value of a property. -/
def ValuedProperty.set? (p : ValuedProperty) (value : String) : Option CharSet :=
  match p with
  | generalCategory => Category.find? value
  | script => Script.find? value
  | scriptExtensions => Script.findExtended? value
  | age => Age.find? value
  | graphemeClusterBreak => Segmentation.find? Segmentation.graphemeClusterBreak value
  | wordBreak => Segmentation.find? Segmentation.wordBreak value
  | sentenceBreak => Segmentation.find? Segmentation.sentenceBreak value

/-- The set with the given name. The names `cf`, `sc` and `lc` mean categories, though properties
with values are called so, too. -/
def lookUp? (name : String) : Except LookupError CharSet :=
  let name := normalizeName name
  let isCategory := name = "cf" ∨ name = "sc" ∨ name = "lc"
  match Property.find? name with
  | some set => .ok set
  | none =>
    if ¬isCategory ∧ ((ValuedProperty.find? name).isSome ∨ otherProperties.contains name) then
      .error .unknownProperty
    else match (Category.find? name).or (Script.find? name) with
      | some set => .ok set
      | none =>
        if Category.surrogateNames.contains name ∨ Script.emptyNames.contains name then
          .error .unknownValue
        else .error .unknownProperty

/-- The characters for which a property has the given value. -/
def lookUpValue? (property value : String) : Except LookupError CharSet :=
  let property := normalizeName property
  match ValuedProperty.find? property with
  | some p =>
    match p.set? (normalizeName value) with
    | some set => .ok set
    | none => .error .unknownValue
  | none =>
    if (Property.find? property).isSome ∨ otherProperties.contains property then
      .error .unknownValue
    else .error .unknownProperty

end Munch.Unicode
