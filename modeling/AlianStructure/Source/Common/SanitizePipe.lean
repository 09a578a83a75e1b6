import AlianStructure.Source.Common.BigIntText
import AlianStructure.Source.Files.FileStorageService

/-!
# The global pipe

Source: src/common/pipes/sanitize.pipe.ts:42-82, src/main.ts:73-75 and src/infrastructure/file-upload/
file-upload.controller.ts:338-353. The pipe goes over the body of every request. What it does to a text
before it encodes it (the normal form of Unicode, the removal of scripts, handlers, URIs and comments) is a
parameter that is any function.
-/
namespace AlianStructure.Source.Common.SanitizePipe
open Library.Interleaving Source.Files

/-- The characters that are encoded, in this order. -/
def encoded : List (Char × String) :=
  [('&', "&amp;"), ('<', "&lt;"), ('>', "&gt;"), ('\x22', "&quot;"), ('\x27', "&#x27;"), ('/', "&#x2F;")]

def replaceAll (text : List Char) (entry : Char × String) : List Char :=
  text.flatMap fun c => if c = entry.1 then entry.2.toList else [c]

def encode (text : List Char) : List Char := encoded.foldl replaceAll text

variable (strip : List Char → List Char)

def sanitizeString (str : List Char) : List Char :=
  if str = [] then str else trim (encode (strip (trim str)))

/-- A call as the controller makes it. -/
def received : FileCall → FileCall
  | .generateThumbnail fileId width height format variant =>
    .generateThumbnail fileId width height (format.map (sanitizeString strip)) (variant.map (sanitizeString strip))
  | call => call

/-- A request takes the place of a call. -/
def throughPipe {host : FileHost} {config : FileConfig} :
    Label (fileProcess host config) → Label (fileProcess host config)
  | .call call => .call (received strip call)
  | label => label

/-! ## What is left of a text -/

theorem mem_of_mem_trim {text : List Char} {c : Char} (member : c ∈ trim text) : c ∈ text := by
  have inner := (List.dropWhile_suffix _).mem (List.mem_reverse.mp member)
  exact (List.dropWhile_suffix _).mem (List.mem_reverse.mp inner)

theorem encode_plain (text : List Char) : '/' ∉ encode text := by
  have last : ∀ front : List Char, '/' ∉ replaceAll front ('/', "&#x2F;") := by
    intro front member
    obtain ⟨c, _, isPart⟩ := List.mem_flatMap.mp member
    split at isPart
    next => exact absurd isPart (by decide)
    next differs => exact differs (List.mem_singleton.mp isPart).symm
  exact last _

/-- No separator of paths is left of a text. -/
theorem sanitizeString_plain (str : List Char) : '/' ∉ sanitizeString strip str := by
  unfold sanitizeString
  split
  next empty => simp [empty]
  next => exact fun member => encode_plain _ (mem_of_mem_trim member)

example : sanitizeString id " /../etc\x22 ".toList = "&#x2F;..&#x2F;etc&quot;".toList := by decide +kernel

end AlianStructure.Source.Common.SanitizePipe
