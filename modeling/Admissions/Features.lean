import Admissions.Text.Blank

namespace Admissions

inductive Feature where
  | skeOffers
  | structuredRejectionReasons
deriving DecidableEq

namespace Feature

def all : List Feature := [.skeOffers, .structuredRejectionReasons]

def key : Feature → String
  | .skeOffers => "ske_offers"
  | .structuredRejectionReasons => "structured_rejection_reasons"

def ofKey? (key : String) : Option Feature := all.find? (·.key == key)

end Feature

structure Features where
  skeOffers : Bool
  structuredRejectionReasons : Bool
deriving DecidableEq

namespace Features

def none : Features := ⟨false, false⟩

def isActive (features : Features) : Feature → Bool
  | .skeOffers => features.skeOffers
  | .structuredRejectionReasons => features.structuredRejectionReasons

def enable (features : Features) : Feature → Features
  | .skeOffers => { features with skeOffers := true }
  | .structuredRejectionReasons => { features with structuredRejectionReasons := true }

def active (features : Features) : List Feature := Feature.all.filter features.isActive

/-- White space around a name and the case of its ASCII letters do not count. -/
def ofText (text : String) : Features :=
  let names := (text.toList.splitOn ',').map fun part =>
    String.ofList ((Text.trimChars part).map Char.toLower)
  (names.filterMap Feature.ofKey?).foldl enable none

end Features

end Admissions
