namespace TextCriteria

/-!
# Phone regions

* `PhoneRegion` — the regions whose phone numbers are known, with `international` for all others.
* `PhoneRegion.code`, `PhoneRegion.key` — how a region is written, and how it is looked up.
* `PhoneRegion.shape` — the pattern of its numbers.
-/

/-- The regions, in catalog order. -/
inductive PhoneRegion
  | rw
  | drc
  | us
  | uk
  | ke
  | ug
  | tz
  | ng
  | za
  | gh
  | e164
  | international
  deriving DecidableEq, Repr

namespace PhoneRegion

/-- All regions in order. -/
def all : List PhoneRegion :=
  [.rw, .drc, .us, .uk, .ke, .ug, .tz, .ng, .za, .gh, .e164, .international]

/-- The upper case name by which a region is looked up. -/
def key : PhoneRegion → String
  | .rw => "RW"
  | .drc => "DRC"
  | .us => "US"
  | .uk => "UK"
  | .ke => "KE"
  | .ug => "UG"
  | .tz => "TZ"
  | .ng => "NG"
  | .za => "ZA"
  | .gh => "GH"
  | .e164 => "E164"
  | .international => "INTERNATIONAL"

/-- How a region is written. -/
def code : PhoneRegion → String
  | .international => "international"
  | region => region.key

/-- The pattern of a region's phone numbers. -/
def shape : PhoneRegion → String
  | .rw => "(?:\\+?250|0)?7[2-9][0-9]\x7b7\x7d"
  | .drc => "(?:\\+?243|0)?8[1-9][0-9]\x7b7\x7d"
  | .us => "\\+?1?[-.]?\\(?[0-9]\x7b3\x7d\\)?[-.]?[0-9]\x7b3\x7d[-.]?[0-9]\x7b4\x7d"
  | .uk => "\\+?44\\s?[0-9]\x7b10\x7d"
  | .ke => "(?:\\+?254|0)?[71][0-9]\x7b8\x7d"
  | .ug => "(?:\\+?256|0)?7[0-9]\x7b8\x7d"
  | .tz => "(?:\\+?255|0)?[67][0-9]\x7b8\x7d"
  | .ng => "(?:\\+?234|0)?[789][0-9]\x7b9\x7d"
  | .za => "(?:\\+?27|0)?[6-8][0-9]\x7b8\x7d"
  | .gh => "(?:\\+?233|0)?[235][0-9]\x7b8\x7d"
  | .e164 => "\\+[1-9][0-9]\x7b1,14\x7d"
  | .international =>
    "\\+?[0-9]\x7b1,4\x7d?[-.]?\\(?[0-9]\x7b1,3\x7d?\\)?[-.]?[0-9]\x7b1,4\x7d[-.]?" ++
      "[0-9]\x7b1,4\x7d[-.]?[0-9]\x7b1,9\x7d"

/-- The region with a given upper case name. -/
def withKey? (key : String) : Option PhoneRegion :=
  all.find? fun r => r.key == key

end PhoneRegion
end TextCriteria
