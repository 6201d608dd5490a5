import CodeAtlas.Text.NameTable
import CodeAtlas.Text.Ranges

set_option autoImplicit false

/-! Characters found by their names in Unicode 14. -/

namespace CodeAtlas.Text

def upperAscii (c : Char) : Char :=
  if 'a' ≤ c && c ≤ 'z' then Char.ofNat (c.toNat - 32) else c

/-! ### Names from the table -/

-- The reverse of what a character of a packed name stands for.
def unpacked (c : Char) : List Char :=
  if 'a' ≤ c && c ≤ 'z' then ((namePhrases[c.toNat - 97]?).getD "").toList.reverse else [c]

-- The code of the wanted name in a packed run. Names are reversed; `code` belongs to the one read so
-- far.
def findName (wanted : List Char) (code : Nat) (name : List Char) : List Char → Option Nat
  | [] => if name == wanted then some code else none
  | '~' :: rest => findName wanted code (name.drop 20) rest
  | c :: rest =>
    match nameMarks.idxOf? c with
    | some count =>
      if name == wanted then some code else findName wanted (code + 1) (name.drop count) rest
    | none => findName wanted code (unpacked c ++ name) rest

def listedName? (name : List Char) : Option Nat :=
  nameRuns.findSome? fun (first, lines) =>
    findName name.reverse (first - 1) [] (lines.flatMap String.toList)

-- Other names of characters: of control characters, abbreviations, and corrections.
def nameAliases : List (String × Nat) :=
  [("NUL", 0), ("NULL", 0), ("SOH", 1), ("START OF HEADING", 1), ("START OF TEXT", 2), ("STX", 2),
   ("END OF TEXT", 3), ("ETX", 3), ("END OF TRANSMISSION", 4), ("EOT", 4), ("ENQ", 5),
   ("ENQUIRY", 5), ("ACK", 6), ("ACKNOWLEDGE", 6), ("ALERT", 7), ("BEL", 7), ("BACKSPACE", 8),
   ("BS", 8), ("CHARACTER TABULATION", 9), ("HORIZONTAL TABULATION", 9), ("HT", 9), ("TAB", 9),
   ("END OF LINE", 10), ("EOL", 10), ("LF", 10), ("LINE FEED", 10), ("NEW LINE", 10), ("NL", 10),
   ("LINE TABULATION", 11), ("VERTICAL TABULATION", 11), ("VT", 11), ("FF", 12),
   ("FORM FEED", 12), ("CARRIAGE RETURN", 13), ("CR", 13), ("LOCKING-SHIFT ONE", 14),
   ("SHIFT OUT", 14), ("SO", 14), ("LOCKING-SHIFT ZERO", 15), ("SHIFT IN", 15), ("SI", 15),
   ("DATA LINK ESCAPE", 16), ("DLE", 16), ("DC1", 17), ("DEVICE CONTROL ONE", 17), ("DC2", 18),
   ("DEVICE CONTROL TWO", 18), ("DC3", 19), ("DEVICE CONTROL THREE", 19), ("DC4", 20),
   ("DEVICE CONTROL FOUR", 20), ("NAK", 21), ("NEGATIVE ACKNOWLEDGE", 21), ("SYN", 22),
   ("SYNCHRONOUS IDLE", 22), ("END OF TRANSMISSION BLOCK", 23), ("ETB", 23), ("CAN", 24),
   ("CANCEL", 24), ("END OF MEDIUM", 25), ("EOM", 25), ("SUB", 26), ("SUBSTITUTE", 26),
   ("ESC", 27), ("ESCAPE", 27), ("FILE SEPARATOR", 28), ("FS", 28),
   ("INFORMATION SEPARATOR FOUR", 28), ("GROUP SEPARATOR", 29), ("GS", 29),
   ("INFORMATION SEPARATOR THREE", 29), ("INFORMATION SEPARATOR TWO", 30),
   ("RECORD SEPARATOR", 30), ("RS", 30), ("INFORMATION SEPARATOR ONE", 31),
   ("UNIT SEPARATOR", 31), ("US", 31), ("SP", 32), ("DEL", 127), ("DELETE", 127), ("PAD", 128),
   ("PADDING CHARACTER", 128), ("HIGH OCTET PRESET", 129), ("HOP", 129), ("BPH", 130),
   ("BREAK PERMITTED HERE", 130), ("NBH", 131), ("NO BREAK HERE", 131), ("IND", 132),
   ("INDEX", 132), ("NEL", 133), ("NEXT LINE", 133), ("SSA", 134),
   ("START OF SELECTED AREA", 134), ("END OF SELECTED AREA", 135), ("ESA", 135),
   ("CHARACTER TABULATION SET", 136), ("HORIZONTAL TABULATION SET", 136), ("HTS", 136),
   ("CHARACTER TABULATION WITH JUSTIFICATION", 137),
   ("HORIZONTAL TABULATION WITH JUSTIFICATION", 137), ("HTJ", 137), ("LINE TABULATION SET", 138),
   ("VERTICAL TABULATION SET", 138), ("VTS", 138), ("PARTIAL LINE DOWN", 139),
   ("PARTIAL LINE FORWARD", 139), ("PLD", 139), ("PARTIAL LINE BACKWARD", 140),
   ("PARTIAL LINE UP", 140), ("PLU", 140), ("REVERSE INDEX", 141), ("REVERSE LINE FEED", 141),
   ("RI", 141), ("SINGLE SHIFT TWO", 142), ("SINGLE-SHIFT-2", 142), ("SS2", 142),
   ("SINGLE SHIFT THREE", 143), ("SINGLE-SHIFT-3", 143), ("SS3", 143), ("DCS", 144),
   ("DEVICE CONTROL STRING", 144), ("PRIVATE USE ONE", 145), ("PRIVATE USE-1", 145), ("PU1", 145),
   ("PRIVATE USE TWO", 146), ("PRIVATE USE-2", 146), ("PU2", 146), ("SET TRANSMIT STATE", 147),
   ("STS", 147), ("CANCEL CHARACTER", 148), ("CCH", 148), ("MESSAGE WAITING", 149), ("MW", 149),
   ("SPA", 150), ("START OF GUARDED AREA", 150), ("START OF PROTECTED AREA", 150),
   ("END OF GUARDED AREA", 151), ("END OF PROTECTED AREA", 151), ("EPA", 151), ("SOS", 152),
   ("START OF STRING", 152), ("SGC", 153), ("SINGLE GRAPHIC CHARACTER INTRODUCER", 153),
   ("SCI", 154), ("SINGLE CHARACTER INTRODUCER", 154), ("CONTROL SEQUENCE INTRODUCER", 155),
   ("CSI", 155), ("ST", 156), ("STRING TERMINATOR", 156), ("OPERATING SYSTEM COMMAND", 157),
   ("OSC", 157), ("PM", 158), ("PRIVACY MESSAGE", 158), ("APC", 159),
   ("APPLICATION PROGRAM COMMAND", 159), ("NBSP", 160), ("SHY", 173),
   ("LATIN CAPITAL LETTER GHA", 418), ("LATIN SMALL LETTER GHA", 419), ("CGJ", 847),
   ("ALM", 1564), ("SYRIAC SUBLINEAR COLON SKEWED LEFT", 1801), ("KANNADA LETTER LLLA", 3294),
   ("LAO LETTER FO FON", 3741), ("LAO LETTER FO FAY", 3743), ("LAO LETTER RO", 3747),
   ("LAO LETTER LO", 3749), ("TIBETAN MARK BKA- SHOG GI MGO RGYAN", 4048),
   ("HANGUL JONGSEONG YESIEUNG-KIYEOK", 4588), ("HANGUL JONGSEONG YESIEUNG-SSANGKIYEOK", 4589),
   ("HANGUL JONGSEONG SSANGYESIEUNG", 4590), ("HANGUL JONGSEONG YESIEUNG-KHIEUKH", 4591),
   ("FVS1", 6155), ("FVS2", 6156), ("FVS3", 6157), ("MVS", 6158), ("FVS4", 6159), ("ZWSP", 8203),
   ("ZWNJ", 8204), ("ZWJ", 8205), ("LRM", 8206), ("RLM", 8207), ("LRE", 8234), ("RLE", 8235),
   ("PDF", 8236), ("LRO", 8237), ("RLO", 8238), ("NNBSP", 8239), ("MMSP", 8287), ("WJ", 8288),
   ("LRI", 8294), ("RLI", 8295), ("FSI", 8296), ("PDI", 8297),
   ("WEIERSTRASS ELLIPTIC FUNCTION", 8472), ("MICR ON US SYMBOL", 9288),
   ("MICR DASH SYMBOL", 9289),
   ("LEFTWARDS TRIANGLE-HEADED ARROW WITH DOUBLE VERTICAL STROKE", 11130),
   ("RIGHTWARDS TRIANGLE-HEADED ARROW WITH DOUBLE VERTICAL STROKE", 11132),
   ("YI SYLLABLE ITERATION MARK", 40981), ("MYANMAR LETTER KHAMTI LLA", 43630),
   ("PRESENTATION FORM FOR VERTICAL RIGHT WHITE LENTICULAR BRACKET", 65048), ("BOM", 65279),
   ("BYTE ORDER MARK", 65279), ("ZWNBSP", 65279), ("CUNEIFORM SIGN NU11 TENU", 74452),
   ("CUNEIFORM SIGN NU11 OVER NU11 BUR OVER BUR", 74453), ("MEDEFAIDRIN CAPITAL LETTER H", 93782),
   ("MEDEFAIDRIN CAPITAL LETTER NG", 93783), ("MEDEFAIDRIN SMALL LETTER H", 93814),
   ("MEDEFAIDRIN SMALL LETTER NG", 93815), ("HENTAIGANA LETTER E-1", 110593),
   ("BYZANTINE MUSICAL SYMBOL FTHORA SKLIRON CHROMA VASIS", 118981)]

-- The abbreviations of the 256 variation selectors, the first sixteen of which stand apart.
def selectorNamed? (name : List Char) : Option Nat :=
  (List.range 256).findSome? fun index =>
    if name == s!"VS{index + 1}".toList then
      some (if index < 16 then 0xfe00 + index else 0xe0100 + (index - 16))
    else none

/-! ### Names by rule -/

def ideographRanges : List (Nat × Nat) :=
  [(0x3400, 0x4dbf), (0x4e00, 0x9fff), (0x20000, 0x2a6df), (0x2a700, 0x2b738), (0x2b740, 0x2b81d),
   (0x2b820, 0x2cea1), (0x2ceb0, 0x2ebe0), (0x30000, 0x3134a)]

def upperHexValue? (c : Char) : Option Nat :=
  if '0' ≤ c && c ≤ '9' then some (c.toNat - 48)
  else if 'A' ≤ c && c ≤ 'F' then some (c.toNat - 55)
  else none

-- An ideograph is named by its code in four or five digits.
def ideographNamed? (digits : List Char) : Option Nat := do
  let values ← digits.mapM upperHexValue?
  let code := values.foldl (fun n d => 16 * n + d) 0
  if (values.length == 4 || values.length == 5) && inRanges ideographRanges code then some code
  else none

def leadingSounds : List String :=
  ["G", "GG", "N", "D", "DD", "R", "M", "B", "BB", "S", "SS", "", "J", "JJ", "C", "K", "T", "P", "H"]

def vowelSounds : List String :=
  ["A", "AE", "YA", "YAE", "EO", "E", "YEO", "YE", "O", "WA", "WAE", "OE", "YO", "U", "WEO", "WE",
   "WI", "YU", "EU", "YI", "I"]

def trailingSounds : List String :=
  ["", "G", "GG", "GS", "N", "NJ", "NH", "D", "L", "LG", "LM", "LB", "LS", "LT", "LP", "LH", "M",
   "B", "BS", "S", "SS", "NG", "J", "C", "K", "T", "P", "H"]

-- The longest of some sounds at the start of a text, by its place among them, and what is left.
def longestSound? (sounds : List String) (text : List Char) : Option (Nat × List Char) :=
  let fitting := sounds.zipIdx.filter fun (sound, _) => sound.toList.isPrefixOf text
  let longest := fitting.foldl (fun found next =>
    match found with
    | some (sound, _) => if sound.length < next.1.length then some next else found
    | none => some next) none
  longest.map fun (sound, index) => (index, text.drop sound.length)

def syllableNamed? (sounds : List Char) : Option Nat := do
  let (leading, rest) ← longestSound? leadingSounds sounds
  let (vowel, rest) ← longestSound? vowelSounds rest
  let (trailing, rest) ← longestSound? trailingSounds rest
  if rest.isEmpty then some (0xac00 + (leading * 21 + vowel) * 28 + trailing) else none

/-- The code of the character with a name. Case matters only for names by rule. -/
def charNamed? (name : List Char) : Option Nat :=
  let ideograph := "CJK UNIFIED IDEOGRAPH-"
  let syllable := "HANGUL SYLLABLE "
  if ideograph.toList.isPrefixOf name then ideographNamed? (name.drop ideograph.length)
  else if syllable.toList.isPrefixOf name then syllableNamed? (name.drop syllable.length)
  else
    let name := name.map upperAscii
    listedName? name <|> nameAliases.lookup (String.ofList name) <|> selectorNamed? name

end CodeAtlas.Text
