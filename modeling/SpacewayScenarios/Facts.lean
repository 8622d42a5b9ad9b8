import SpacewayScenarios.Regex.Basic

/-!
# Fact patterns and extraction

The scripts repeat the same inline regular expressions; here each is defined once, as a
member of the family it belongs to, with the Python source in its docstring:

* `createdId "space"` and `createdId "thread"`: `Created <noun>: .+? \(([0-9a-f]{16})\)`;
* `labelled "Space: " 64` and `labelled "User ID: " 64`: a label and a fixed-width hex id;
* `tokenAfter "Created invite code: "` and `tokenAfter "Peer ID: "`: a label and `(\w+)`;
* `listingRow`: `([0-9a-f]{16})\s+-\s+<name>`, the rows of the `channels` and `threads`
  listings;
* the decrypt marker and the plain-text checks.

The extraction functions are the pure parts of the scripts' helpers: `firstGroup` is what
`find_in_log` computes from the content it read, `found` what `check_log` computes, and
`occursIn` is Python's `text in content`. The patterns live in the namespace `Pat`, so that
the scripts' variables (`peer_id`, `full_space_id`, ...) keep their own names.
-/

namespace SpacewayScenarios

namespace Pat

/-- Pattern `Created <noun>: .+? \(([0-9a-f]{16})\)`: the short id the engine prints when it
creates a space or a thread. -/
def createdId (noun : String) : Re :=
  .seq (.lit ("Created " ++ noun ++ ": ").toList)
    (.seq (.plusLazy .dot) (.seq (.lit " (".toList) (.seq (.group (.rep .hex 16)) (.lit [')']))))

/-- Pattern `Created space: <name> \(([0-9a-f]{16})\)`: the short id of the space named `name`. -/
def createdNamedSpace (name : String) : Re :=
  .seq (.lit ("Created space: " ++ name ++ " (").toList) (.seq (.group (.rep .hex 16)) (.lit [')']))

/-- Pattern `<label>([0-9a-f]{n})`. -/
def labelled (label : String) (n : Nat) : Re := .seq (.lit label.toList) (.group (.rep .hex n))

/-- Pattern `<label>(\w+)`. -/
def tokenAfter (label : String) : Re := .seq (.lit label.toList) (.group (.plus .word))

/-- Pattern `([0-9a-f]{16})\s+-\s+<entry>`: a row of the `channels` or `threads` listing. -/
def listingRow (entry : Re) : Re :=
  .seq (.group (.rep .hex 16)) (.seq (.plus .space) (.seq (.lit ['-']) (.seq (.plus .space) entry)))

/-- Pattern `r'Created space: .+? \(([0-9a-f]{16})\)'`. -/
def createdSpace : Re := createdId "space"

/-- Pattern `r'Created thread: .+? \(([0-9a-f]{16})\)'`. -/
def createdThread : Re := createdId "thread"

/-- Pattern `r'Space: ([0-9a-f]{64})'`. -/
def fullSpaceId : Re := labelled "Space: " 64

/-- Pattern `r'User ID: ([0-9a-f]{64})'`. -/
def userId : Re := labelled "User ID: " 64

/-- Pattern `r'Created invite code: (\w+)'`. -/
def inviteCode : Re := tokenAfter "Created invite code: "

/-- Pattern `r'Peer ID: (\w+)'`. -/
def peerId : Re := tokenAfter "Peer ID: "

/-- Pattern `r'([0-9a-f]{16})\s+-\s+<name>'`: the id of the channel called `name`. -/
def channelRow (name : String) : Re := listingRow (.lit name.toList)

/-- Pattern `r'([0-9a-f]{16})\s+-\s+"?<title>"?'`: the id of the thread called `title`. -/
def threadRow (title : String) : Re :=
  listingRow (.seq (.opt (.lit '"')) (.seq (.lit title.toList) (.opt (.lit '"'))))

/-- Pattern `r'Decrypted MLS message'`: the line the engine prints for each message it decrypts. -/
def decryptMarker : Re := .lit "Decrypted MLS message".toList

/-- A pattern that is plain text, as the `check_log` patterns of the two-party scripts. -/
def text (s : String) : Re := .lit s.toList

end Pat

/-- Group 1 of the first match, as `match.group(1) if match else None`. -/
def firstGroup (pattern : Re) (content : List Char) : Option String :=
  ((pattern.search content).bind id).map String.mk

/-- Python's `bool(re.search(pattern, content))`. -/
def found (pattern : Re) (content : List Char) : Bool := (pattern.search content).isSome

/-- Python's `needle in content` for strings. -/
def occursIn (needle : String) (content : List Char) : Bool := decide (needle.toList <:+: content)

/-- Python's `len(re.findall(r'Decrypted MLS message', content))`. -/
def decrypts (content : List Char) : Nat := Pat.decryptMarker.countFrom 0 content

/-- Python's `str.lower()`, on the ASCII letters. -/
def lower (content : List Char) : List Char := content.map Char.toLower

end SpacewayScenarios
