/-
PEM bundles: sections of base64 between a line that begins a section and one that ends it, with any
other text between the sections. A line ends at each carriage return and at each line feed. A
section that begins while another is open takes its place and keeps what was collected; a line that
starts with the end mark of the open section closes it, whatever follows on the line.
-/
import TopicRelay.Text.Quoted
import TopicRelay.Trust.Base64

namespace TopicRelay.Trust.Pem

open TopicRelay.Text

/-- Why a bundle cannot be read. -/
inductive Fault where
  /-- A line begins a section without five dashes at its end. -/
  | illegalStart (line : Octets)
  /-- The bundle ends inside a section. -/
  | missingEnd (mark : Octets)
  /-- The body of a section is no base64. -/
  | body
  deriving Repr, DecidableEq

/-- The text of a fault; `<base64>` stands for the place and nature of a break in a body. -/
def Fault.message : Fault → String
  | .illegalStart line => "illegal section start: " ++ Quoted.encode (Utf8.decodeLossy line)
  | .missingEnd mark => "section end " ++ Quoted.encode (Utf8.decodeLossy mark) ++ " missing"
  | .body => "<base64>"

/-! ## Lines -/

/-- Whether an octet ends a line. -/
def isLineEnd (b : UInt8) : Bool :=
  b == 10 || b == 13

/-- Whether an octet is dropped at the end of a line. -/
def isTrailing (b : UInt8) : Bool :=
  isLineEnd b || b == 32

/-- The lines of a bundle, each with the octet that ends it. -/
def lines : Octets → List Octets
  | [] => []
  | b :: r =>
    if isLineEnd b then [b] :: lines r
    else
      match lines r with
      | [] => [[b]]
      | l :: ls => (b :: l) :: ls

/-- A line without the blanks and line ends at its end. -/
def trimEnd (line : Octets) : Octets :=
  (line.reverse.dropWhile isTrailing).reverse

/-! ## Sections -/

/-- How a line starts that begins a section. -/
def beginMark : Octets := Utf8.encode "-----BEGIN "

/-- How many dashes stand at the end of a line that begins a section. -/
def dashes : Nat := 5

/-- Whether an octet may stand after the label of a section. -/
def isTrailer (b : UInt8) : Bool :=
  b == 45 || isTrailing b

/-- The label in a line that begins a section, unless the dashes at its end are not five. Blanks
among the dashes do not count, and those in front of the dashes belong to the label. -/
def label? (line : Octets) : Option Octets :=
  let trailer := line.reverse.takeWhile isTrailer
  if trailer.count 45 = dashes then
    let rest := line.reverse.drop trailer.length
    let blanks := (trailer.reverse.takeWhile isTrailing)
    some ((rest.reverse ++ blanks).drop beginMark.length)
  else none

/-- How a line starts that ends the section with a label. -/
def endMark (label : Octets) : Octets :=
  Utf8.encode "-----END " ++ label ++ Utf8.encode "-----"

/-- A section with its label and its decoded body. -/
structure Section where
  label : Octets
  body : Octets
  deriving Repr, DecidableEq

/-- What has been read since the last section: the label of the open one and the text collected. -/
structure Reading where
  label : Option Octets := none
  text : Octets := []
  deriving Repr, DecidableEq

/-- The sections that the lines complete. -/
def sectionsFrom (r : Reading) : List Octets → Except Fault (List Section)
  | [] =>
    match r.label with
    | some label => .error (.missingEnd (endMark label))
    | none => .ok []
  | line :: rest =>
    if beginMark.isPrefixOf line then
      match label? line with
      | some label => sectionsFrom { r with label := some label } rest
      | none => .error (.illegalStart line)
    else
      match r.label with
      | none => sectionsFrom r rest
      | some label =>
        if (endMark label).isPrefixOf line then
          match Base64.decode? r.text with
          | some body => (sectionsFrom {} rest).map (⟨label, body⟩ :: ·)
          | none => .error .body
        else sectionsFrom { r with text := r.text ++ trimEnd line } rest

/-- The sections of a bundle. -/
def sections (bundle : Octets) : Except Fault (List Section) :=
  sectionsFrom {} (lines bundle)

/-- The label of a certificate. -/
def certificateLabel : Octets := Utf8.encode "CERTIFICATE"

/-- The certificates of a bundle, in order. -/
def certificates (bundle : Octets) : Except Fault (List Octets) :=
  (sections bundle).map fun ss =>
    (ss.filter fun s => s.label == certificateLabel).map (·.body)

end TopicRelay.Trust.Pem
