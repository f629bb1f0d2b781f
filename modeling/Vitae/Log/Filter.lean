import Vitae.Log.Rule

/-!
# Log Filters

A filter decides which entries of a log are shown. It is a list of rules. Of the
rules that speak about an entry, the most specific one decides, and of two that
are equally specific the later one.

A filter is written as directives with commas between them.

## Main definitions

* `LogFilter`: A list of rules.
* `LogFilter.shows`: Whether an entry is shown.
* `LogFilter.parse`: The filter a text denotes.
* `LogFilter.standard`: The filter if none is given.
* `LogFilter.choose`: The filter to use.

## Theorems

* `LogFilter.covers_of_decisive`: The rule that decides speaks about the entry.
-/

namespace Vitae

/-- The rules that decide what is shown. -/
structure LogFilter where
  rules : List LogRule
deriving DecidableEq, Repr

namespace LogFilter

/-- The more specific of two rules. If both are alike it is the second. -/
def moreSpecific (best : Option LogRule) (rule : LogRule) : Option LogRule :=
  match best with
  | none => some rule
  | some other => if other.isAsSpecificAs rule then some rule else some other

def decisive (filter : LogFilter) (entry : LogEntry) : Option LogRule :=
  (filter.rules.filter (·.covers entry)).foldl moreSpecific none

/-- The choice between rules is one of them. -/
theorem mem_of_foldl_moreSpecific {rules : List LogRule} {best : Option LogRule} {rule : LogRule}
    (h : rules.foldl moreSpecific best = some rule) : rule ∈ rules ∨ best = some rule := by
  induction rules generalizing best with
  | nil => exact .inr h
  | cons first rest ih =>
    rcases ih h with hmem | hbest
    · exact .inl (List.mem_cons_of_mem _ hmem)
    · unfold moreSpecific at hbest
      split at hbest
      · cases hbest; exact .inl (List.mem_cons_self ..)
      · split at hbest
        · cases hbest; exact .inl (List.mem_cons_self ..)
        · exact .inr hbest

theorem covers_of_decisive {filter : LogFilter} {entry : LogEntry} {rule : LogRule}
    (h : filter.decisive entry = some rule) : rule.covers entry = true := by
  rcases mem_of_foldl_moreSpecific h with hmem | hnone
  · exact (List.mem_filter.mp hmem).2
  · cases hnone

def shows (filter : LogFilter) (entry : LogEntry) : Bool :=
  match filter.decisive entry with
  | some rule => entry.level.rank ≤ rule.detail
  | none => false

/-- The entries that are shown. -/
def apply (filter : LogFilter) (entries : List LogEntry) : List LogEntry :=
  entries.filter filter.shows

def errors : LogFilter := ⟨[⟨none, none, Level.error.rank⟩]⟩

/-- The filter a text denotes. The empty text stands for errors only, and a text
of nothing but commas for nothing at all. -/
def parse (text : String) : Except DirectiveFault LogFilter :=
  if text.isEmpty then .ok errors
  else do
    let parts := (Text.pieces (· == ',') text.toList).filter (!·.isEmpty)
    let directives ← parts.mapM LogDirective.parse
    .ok ⟨directives.filterMap LogDirective.rule?⟩

/-- The filter if none is given: entries of the program, down to its progress
if one wants to follow it. -/
def standard (debug : Bool) : LogFilter :=
  ⟨[⟨some LogEntry.program.toList, none,
    if debug then Level.debug.rank else Level.info.rank⟩]⟩

/-- The filter to use: the one that a text denotes, if there is a text and it
denotes one. There is none if the text cannot be cut. -/
def choose (text : Option String) (debug : Bool) : Option LogFilter :=
  match text.map parse with
  | some (.ok filter) => some filter
  | some (.error .torn) => none
  | some (.error .malformed) | none => some (standard debug)

end LogFilter

end Vitae
