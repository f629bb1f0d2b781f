import Vitae.Style.Color
import Vitae.Document.Item

/-!
# Options of a Document

The choices that decide how a document looks and how much it tells: which parts
are shown, which transformations its contents undergo, the accent color, and
the personal details that override those of the source.

## Main definitions

* `StyleFlags`, `ContentFlags`, `Options`: The choices.
* `Palette.ofOptions`: The colors of a document.
* `effectivePersonal`: The personal details that a document shows.
-/

namespace Vitae

/-- Which parts are shown and how. -/
structure StyleFlags where
  header : Bool
  footer : Bool
  spaced : Bool
  darken : Bool
deriving DecidableEq, Repr

/-- Everything is shown unless it is switched off. -/
def StyleFlags.standard : StyleFlags := ⟨true, true, true, true⟩

/-- Which transformations the contents undergo. -/
structure ContentFlags where
  /-- The person is not to be recognized. -/
  anon : Bool
  bold : Bool
deriving DecidableEq, Repr

/-- The contents are left as they are unless it is asked for. -/
def ContentFlags.standard : ContentFlags := ⟨false, false⟩

/-- The choices for one document. -/
structure Options where
  style : StyleFlags
  content : ContentFlags
  color : Option Rgb
  /-- The details that override those of the source. -/
  personal : Personal
deriving DecidableEq, Repr

/-- The choices when nothing was chosen. -/
def Options.standard : Options := ⟨.standard, .standard, none, .blank⟩

/-- The colors of a document. -/
structure Palette where
  accent : Rgb
  text : Rgb
  muted : Rgb
deriving DecidableEq, Repr

namespace Palette

def standardAccent : Rgb := ⟨0x1F, 0x3A, 0x5F⟩

def ofOptions (options : Options) : Palette :=
  let accent := options.color.getD standardAccent
  if options.style.darken then ⟨accent, ⟨0x00, 0x00, 0x00⟩, ⟨0x33, 0x33, 0x33⟩⟩
  else ⟨accent, ⟨0x33, 0x33, 0x33⟩, ⟨0x6B, 0x6B, 0x6B⟩⟩

end Palette

/-- The name of a person who is not to be recognized. -/
def anonymousName : String := "Anonymous Candidate"

/-- The personal details a document shows: those of the source under the
overrides, and of these only the titles if the person is not to be
recognized. -/
def effectivePersonal (source : Personal) (options : Options) : Personal :=
  let merged := options.personal.overlay source
  if options.content.anon then
    { Personal.blank with name := some anonymousName, titles := merged.titles }
  else merged

end Vitae
