import RowStamp.Regex.Fault
import RowStamp.Text.Blank
import RowStamp.Text.Category
import RowStamp.Text.Letter
import RowStamp.Text.Script

/-!
Unicode properties by their names, and the sets of characters that have them.  Letter case, blanks,
hyphens, underscores and a leading `is` do not matter in a name.
-/

set_option autoImplicit false
set_option relaxedAutoImplicit false

namespace RowStamp.Regex

abbrev CharSet := Char → Bool

namespace Property

open Text (Category)

def normalized (name : String) : String :=
  let plain := (name.toList.filter (fun c => !(Text.isBlank c || c = '_' || c = '-'))).map
    Char.toLower
  match plain with
  | ['i', 's', 'c'] => "isc"
  | 'i' :: 's' :: rest => String.ofList rest
  | _ => String.ofList plain

def categoryGroups : List (List String × List Category) := [
  (["l", "letter"],
    [.uppercaseLetter, .lowercaseLetter, .titlecaseLetter, .modifierLetter, .otherLetter]),
  (["lc", "casedletter"], [.uppercaseLetter, .lowercaseLetter, .titlecaseLetter]),
  (["lu", "uppercaseletter"], [.uppercaseLetter]),
  (["ll", "lowercaseletter"], [.lowercaseLetter]),
  (["lt", "titlecaseletter"], [.titlecaseLetter]),
  (["lm", "modifierletter"], [.modifierLetter]),
  (["lo", "otherletter"], [.otherLetter]),
  (["m", "mark", "combiningmark"], [.nonspacingMark, .spacingMark, .enclosingMark]),
  (["mn", "nonspacingmark"], [.nonspacingMark]),
  (["mc", "spacingmark"], [.spacingMark]),
  (["me", "enclosingmark"], [.enclosingMark]),
  (["n", "number"], [.decimalNumber, .letterNumber, .otherNumber]),
  (["nd", "decimalnumber", "digit"], [.decimalNumber]),
  (["nl", "letternumber"], [.letterNumber]),
  (["no", "othernumber"], [.otherNumber]),
  (["p", "punctuation", "punct"],
    [.connectorPunctuation, .dashPunctuation, .openPunctuation, .closePunctuation,
      .initialPunctuation, .finalPunctuation, .otherPunctuation]),
  (["pc", "connectorpunctuation"], [.connectorPunctuation]),
  (["pd", "dashpunctuation"], [.dashPunctuation]),
  (["ps", "openpunctuation"], [.openPunctuation]),
  (["pe", "closepunctuation"], [.closePunctuation]),
  (["pi", "initialpunctuation"], [.initialPunctuation]),
  (["pf", "finalpunctuation"], [.finalPunctuation]),
  (["po", "otherpunctuation"], [.otherPunctuation]),
  (["s", "symbol"], [.mathSymbol, .currencySymbol, .modifierSymbol, .otherSymbol]),
  (["sm", "mathsymbol"], [.mathSymbol]),
  (["sc", "currencysymbol"], [.currencySymbol]),
  (["sk", "modifiersymbol"], [.modifierSymbol]),
  (["so", "othersymbol"], [.otherSymbol]),
  (["z", "separator"], [.spaceSeparator, .lineSeparator, .paragraphSeparator]),
  (["zs", "spaceseparator"], [.spaceSeparator]),
  (["zl", "lineseparator"], [.lineSeparator]),
  (["zp", "paragraphseparator"], [.paragraphSeparator]),
  (["c", "other"], [.control, .format, .surrogate, .privateUse, .unassigned]),
  (["cc", "control", "cntrl"], [.control]),
  (["cf", "format"], [.format]),
  (["cs", "surrogate"], [.surrogate]),
  (["co", "privateuse"], [.privateUse]),
  (["cn", "unassigned"], [.unassigned])]

def category? (name : String) : Option CharSet :=
  if name = "any" then some fun _ => true
  else if name = "assigned" then some fun c => !Category.unassigned.has c
  else if name = "ascii" then some fun c => c.toNat < 128
  else
    (categoryGroups.find? fun group => group.1.contains name).map fun group c =>
      group.2.any (·.has c)

def scriptAliases : List (String × String) :=
  [("arab", "arabic"), ("armn", "armenian"), ("beng", "bengali"), ("bopo", "bopomofo"),
    ("brai", "braille"), ("cher", "cherokee"), ("zyyy", "common"), ("copt", "coptic"),
    ("cyrl", "cyrillic"), ("deva", "devanagari"), ("ethi", "ethiopic"), ("geor", "georgian"),
    ("goth", "gothic"), ("grek", "greek"), ("gujr", "gujarati"), ("guru", "gurmukhi"),
    ("hani", "han"), ("hang", "hangul"), ("hebr", "hebrew"), ("hira", "hiragana"),
    ("zinh", "inherited"), ("qaai", "inherited"), ("java", "javanese"), ("knda", "kannada"),
    ("kana", "katakana"), ("khmr", "khmer"), ("laoo", "lao"), ("latn", "latin"),
    ("mlym", "malayalam"), ("mong", "mongolian"), ("mymr", "myanmar"), ("ogam", "ogham"),
    ("orya", "oriya"), ("runr", "runic"), ("sinh", "sinhala"), ("syrc", "syriac"),
    ("taml", "tamil"), ("telu", "telugu"), ("thaa", "thaana"), ("tibt", "tibetan"),
    ("tfng", "tifinagh"), ("yiii", "yi")]

def script? (name : String) : Option CharSet :=
  (Text.scriptChanges? ((scriptAliases.lookup name).getD name)).map fun changes c =>
    Text.Runs.mem changes c.toNat

def isAsciiHex (c : Char) : Bool :=
  c.isDigit || ('a' ≤ c && c ≤ 'f') || ('A' ≤ c && c ≤ 'F')

def binaryProperties : List (List String × CharSet) := [
  (["alpha", "alphabetic"], Text.isLetter),
  (["lower", "lowercase"], Text.isLowercase),
  (["upper", "uppercase"], Text.isUppercase),
  (["space", "whitespace", "wspace"], Text.isBlank),
  (["grext", "graphemeextend"], Text.extendsGrapheme),
  (["ahex", "asciihexdigit"], isAsciiHex),
  (["hex", "hexdigit"], fun c =>
    let n := c.toNat
    isAsciiHex c || (0xFF10 ≤ n && n ≤ 0xFF19) || (0xFF21 ≤ n && n ≤ 0xFF26) ||
      (0xFF41 ≤ n && n ≤ 0xFF46)),
  (["joinc", "joincontrol"], fun c => c.toNat = 0x200C || c.toNat = 0x200D)]

def binary? (name : String) : Option CharSet :=
  (binaryProperties.find? fun entry => entry.1.contains name).map Prod.snd

/-- The set of a name alone: a property, a category or a script. -/
def named (name : String) : Except Cause CharSet :=
  let key := normalized name
  match (binary? key).orElse fun _ => (category? key).orElse fun _ => script? key with
  | some set => .ok set
  | none => .error .unknownProperty

/-- The set of a name and a value: a category or a script. -/
def valued (name value : String) : Except Cause CharSet :=
  let key := normalized value
  let found (set : Option CharSet) : Except Cause CharSet :=
    match set with
    | some set => .ok set
    | none => .error .unknownPropertyValue
  match normalized name with
  | "gc" => found (category? key)
  | "generalcategory" => found (category? key)
  | "sc" => found (script? key)
  | "script" => found (script? key)
  | "scx" => found (script? key)
  | "scriptextensions" => found (script? key)
  | _ => .error .unknownProperty

end Property

end RowStamp.Regex
