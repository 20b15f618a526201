import Rampart.Error
import Rampart.Text.Blank
import Rampart.Transform.Base64
import Rampart.Transform.Comments
import Rampart.Transform.Entity
import Rampart.Transform.Path
import Rampart.Transform.Percent
import Rampart.Unicode.Casing

/-!
# Transformations

What a rule can do to a value before it is tested, so that different spellings of an attack look
alike. A transformation depends on nothing but the text.
-/

namespace Rampart

/-- A normalisation of texts. -/
inductive Transform where
  | lowercase
  | uppercase
  | urlDecode
  | urlDecodeUni
  | htmlEntityDecode
  | removeWhitespace
  | compressWhitespace
  | removeComments
  | removeNulls
  | normalizePath
  | base64Decode
  | hexDecode
  | trim
  | length
  /-- Changes nothing; in a pipeline it takes back the steps before it. -/
  | none
  deriving DecidableEq, Repr

namespace Transform

/-- The name as it is written in evidence. -/
def name : Transform → String
  | lowercase => "lowercase"
  | uppercase => "uppercase"
  | urlDecode => "urlDecode"
  | urlDecodeUni => "urlDecodeUni"
  | htmlEntityDecode => "htmlEntityDecode"
  | removeWhitespace => "removeWhitespace"
  | compressWhitespace => "compressWhitespace"
  | removeComments => "removeComments"
  | removeNulls => "removeNulls"
  | normalizePath => "normalizePath"
  | base64Decode => "base64Decode"
  | hexDecode => "hexDecode"
  | trim => "trim"
  | length => "length"
  | none => "none"

/-- The transformation of a name in small letters. -/
def ofLowerName? : String → Option Transform
  | "lowercase" | "lower" => some lowercase
  | "uppercase" | "upper" => some uppercase
  | "urldecode" | "url_decode" => some urlDecode
  | "urldecodeuni" | "url_decode_uni" => some urlDecodeUni
  | "htmlentitydecode" | "html_entity_decode" => some htmlEntityDecode
  | "removewhitespace" | "remove_whitespace" => some removeWhitespace
  | "compresswhitespace" | "compress_whitespace" => some compressWhitespace
  | "removecomments" | "remove_comments" => some removeComments
  | "removenulls" | "remove_nulls" => some removeNulls
  | "normalizepath" | "normalize_path" => some normalizePath
  | "base64decode" | "base64_decode" => some base64Decode
  | "hexdecode" | "hex_decode" => some hexDecode
  | "trim" => some trim
  | "length" => some length
  | "none" => some none
  | _ => Option.none

/-- The transformation of a name, in any case. -/
def ofName (s : String) : Except Error Transform :=
  match ofLowerName? (Unicode.lower s) with
  | some t => .ok t
  | Option.none => .error (.unknownTransform s)

/-- Every stretch of blanks as one space. The flag says that a blank stands before. -/
def compress (afterBlank : Bool) : List Char → List Char
  | [] => []
  | c :: cs =>
    if Text.isBlank c then
      if afterBlank then compress true cs else ' ' :: compress true cs
    else c :: compress false cs

/-- The bytes of a text of hexadecimal digits, two for a byte. Two bytes that are not digits stand
for themselves, and so does a last one. -/
def hexBytes : List UInt8 → List UInt8
  | high :: low :: rest =>
    match Percent.hexPair? high low with
    | some b => b :: hexBytes rest
    | Option.none => high :: low :: hexBytes rest
  | rest => rest

/-- The text that is left of a list of characters. -/
def applyChars : Transform → List Char → List Char
  | urlDecode, cs => Percent.decode cs
  | urlDecodeUni, cs => Percent.decodeLong cs
  | htmlEntityDecode, cs => Entity.decode cs
  | removeWhitespace, cs => cs.filter fun c => !Text.isBlank c
  | compressWhitespace, cs => compress false cs
  | removeComments, cs => Comments.remove cs
  | removeNulls, cs => cs.filter (· != '\x00')
  | normalizePath, cs => Path.normalize cs
  | base64Decode, cs =>
    match Base64.decode? (Text.trimChars cs) with
    | some bytes => Text.decodeLossy bytes
    | Option.none => cs
  | hexDecode, cs => Text.decodeLossy (hexBytes (Text.encode cs))
  | trim, cs => Text.trimChars cs
  | _, cs => cs

/-- The transformed text. -/
def apply : Transform → String → String
  | lowercase, s => Unicode.lower s
  | uppercase, s => Unicode.upper s
  | length, s => (Text.size s).repr
  | none, s => s
  | t, s => String.ofList (t.applyChars s.toList)

end Transform

end Rampart
