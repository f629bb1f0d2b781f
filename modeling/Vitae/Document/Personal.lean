import Vitae.Text.Blank
import Vitae.Json.Record

/-!
# Personal Details

Who a document is about. The details come from the document's source, and each
of them can be overridden for one run. An override counts as soon as it is
given, even if it is blank; it is only when the contact line is put together
that blank details are left out.

## Main definitions

* `Personal`: The personal details.
* `Personal.overlay`: Details over others, field by field.
* `Personal.contacts`: The ways to reach the person, in display order.
* `Personal.record`: How the details are read.
-/

namespace Vitae

/-- The personal details shown at the head and the foot of a document. -/
structure Personal where
  name : Option String
  titles : List String
  address : Option String
  mobile : Option String
  email : Option String
  linkedin : Option String
  github : Option String
  website : Option String
deriving DecidableEq, Repr

namespace Personal

/-- No details at all. -/
def blank : Personal :=
  ⟨none, [], none, none, none, none, none, none⟩

/-- The details `upper` where given, and those of `base` elsewhere. The titles
count as one field. -/
def overlay (upper base : Personal) : Personal where
  name := upper.name.or base.name
  titles := if upper.titles.isEmpty then base.titles else upper.titles
  address := upper.address.or base.address
  mobile := upper.mobile.or base.mobile
  email := upper.email.or base.email
  linkedin := upper.linkedin.or base.linkedin
  github := upper.github.or base.github
  website := upper.website.or base.website

/-- The ways to reach the person that are not blank, in display order. -/
def contacts (p : Personal) : List String :=
  [p.address, p.mobile, p.email, p.linkedin, p.github, p.website].reduceOption.filter
    (fun value => !Text.isBlank value)

/-- A detail that may be left out or null. -/
def detail (key : String) (store : Option String → Personal → Personal) :
    Json.Field Personal :=
  .of key false (Json.optional (Json.textOf "a string")) store

/-- How the details are read. Every field may be left out. -/
def record : Json.Record Personal where
  name := "PersonalFields"
  blank := blank
  fields :=
    [ detail "name" fun v p => { p with name := v },
      .of "titles" false (Json.listOf (Json.textOf "a string"))
        fun v p => { p with titles := v },
      detail "address" fun v p => { p with address := v },
      detail "mobile" fun v p => { p with mobile := v },
      detail "email" fun v p => { p with email := v },
      detail "linkedin" fun v p => { p with linkedin := v },
      detail "github" fun v p => { p with github := v },
      detail "website" fun v p => { p with website := v } ]

end Personal

end Vitae
