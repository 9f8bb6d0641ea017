import VirtualTables.Proofs.Engine.Pattern
import VirtualTables.Proofs.Sample.Paths
import VirtualTables.Proofs.Sample.Selection

/-!
# Scans that select by a pattern

The tables of paths and of signatures are asked for the paths that match a pattern.  They look at
its literal part only and produce the paths that start with it, which are too many in general: the
engine tests them again.  They would have to be enough, too.  But a pattern does not tell capital
letters from small ones, while the tables do, and none of their paths has a capital letter.

`scan_like_iff` says which matches get lost: a match is produced exactly if the literal part has no
capital letter.  `match_is_lost` is a pattern that matches a path of either table, of which a scan
finds nothing.
-/

namespace VirtualTables
namespace Sample

/-- Whether one of some rows has a text in a column. -/
def Produces (rows : List Row) (field : Field) (text : String) : Prop :=
  ∃ row ∈ rows, row.get? field = some (.utf8 text)

theorem produces_iff {rows : List Row} {field : Field} {text : String} :
    Produces rows field text ↔ some (Value.utf8 text) ∈ rows.map (·.get? field) :=
  List.mem_map.symm

theorem mem_map_some_utf8 {texts : List String} {text : String} :
    some (Value.utf8 text) ∈ texts.map (some ∘ Value.utf8) ↔ text ∈ texts := by
  simp

/-- There being no capitals is decided letter by letter. -/
theorem all_small_iff {text : List Char} :
    text.all (!·.isUpper) = true ↔ ∀ c ∈ text, c.isUpper = false := by
  simp

theorem startsLike_iff {pattern text : String} :
    startsLike pattern text = true ↔ literalStart pattern <+: text.toList :=
  List.isPrefixOf_iff_prefix

/-- Of the matches without capital letters, those start like the pattern whose literal part has none
either. -/
theorem startsLike_iff_of_like {pattern text : String}
    (hlike : Pattern.like pattern.toList text.toList = true)
    (hsmall : ∀ c ∈ text.toList, c.isUpper = false) :
    startsLike pattern text = true ↔ ∀ c ∈ literalStart pattern, c.isUpper = false := by
  rw [startsLike_iff]
  exact (Pattern.like_iff.1 hlike).literal_prefix_iff hsmall

/-- What a scan is given for one pattern. -/
def likeOn (field : Field) (pattern : String) : List Constraint :=
  [⟨field, .like, .utf8 pattern⟩]

/-! ## The table of paths -/

namespace Paths

theorem produces_scan_like_iff {pattern text : String} (hknown : text ∈ known) (m : Usage)
    (requested : FieldSet) :
    Produces (table.scan m (.new (likeOn path pattern) requested)) path text ↔
      startsLike pattern text = true := by
  have hselected : selected (likeOn path pattern) = known.filter (startsLike pattern) := by
    simp [selected, likeOn, given, Value.asText?]
  show Produces (table.scan m _) path text ↔ _
  rw [produces_iff, ← pathsOf, pathsOf_scan]
  show some (Value.utf8 text) ∈ (selected (likeOn path pattern)).map (some ∘ Value.utf8) ↔ _
  rw [mem_map_some_utf8, hselected, List.mem_filter, and_iff_right hknown]

end Paths

/-! ## The table of signatures -/

namespace Signatures

/-- The paths of the signatures. -/
def known : List String :=
  records.map fun (text, _) ↦ text

theorem selectsBy : listing.SelectsBy path .utf8 known pathMatches where
  cells := rfl
  always := List.not_mem_nil
  selects constraints number := by
    rw [known, List.getElem?_map, Option.any_map]
    rfl

theorem produces_scan_like_iff {pattern text : String} (hknown : text ∈ known) (m : Usage)
    (requested : FieldSet) :
    Produces (listing.table.scan m (.new (likeOn path pattern) requested)) path text ↔
      startsLike pattern text = true := by
  have hmatches : pathMatches text (likeOn path pattern) = startsLike pattern text := by
    simp [pathMatches, likeOn, meets, Value.asText?]
  rw [produces_iff, selectsBy.values_scan, mem_map_some_utf8, List.mem_filter,
    and_iff_right hknown]
  show pathMatches text (likeOn path pattern) = true ↔ _
  rw [hmatches]

end Signatures

/-! ## Both tables -/

theorem small_of_mem_known :
    ∀ text ∈ Paths.known ++ Signatures.known, ∀ c ∈ text.toList, c.isUpper = false := by
  have hsmall : ∀ text ∈ Paths.known ++ Signatures.known,
      text.toList.all (!·.isUpper) = true := by decide
  intro text htext
  exact all_small_iff.1 (hsmall text htext)

/-- **Which matches of a pattern get lost.**  Take any pattern and a path that a table knows and
that matches it, as engines match patterns.  A scan with this one pattern produces the path exactly
if no letter before the first wildcard of the pattern is a capital. -/
theorem scan_like_iff (pattern : String) (requested : FieldSet) (m : Usage) :
    (∀ text ∈ Paths.known, Pattern.like pattern.toList text.toList = true →
        (Produces (Paths.table.scan m (.new (likeOn Paths.path pattern) requested)) Paths.path
            text ↔
          ∀ c ∈ literalStart pattern, c.isUpper = false)) ∧
      ∀ text ∈ Signatures.known, Pattern.like pattern.toList text.toList = true →
        (Produces
            (Signatures.listing.table.scan m (.new (likeOn Signatures.path pattern) requested))
            Signatures.path text ↔
          ∀ c ∈ literalStart pattern, c.isUpper = false) := by
  constructor
  · intro text hknown hlike
    rw [Paths.produces_scan_like_iff hknown]
    exact startsLike_iff_of_like hlike (small_of_mem_known text (List.mem_append_left _ hknown))
  · intro text hknown hlike
    rw [Signatures.produces_scan_like_iff hknown]
    exact startsLike_iff_of_like hlike (small_of_mem_known text (List.mem_append_right _ hknown))

/-- A capital letter behind a wildcard does no harm. -/
theorem scan_like_iff_of_late_capital :
    Produces (Paths.table.scan .counting (.new (likeOn Paths.path "/dev/%N1") .empty)) Paths.path
        "/dev/en1" ∧
      Produces
        (Signatures.listing.table.scan .counting
          (.new (likeOn Signatures.path "/usr/%/Kubectl") .empty))
        Signatures.path "/usr/local/bin/kubectl" := by
  constructor
  · have hlike : Pattern.like "/dev/%N1".toList "/dev/en1".toList = true := by decide
    exact ((scan_like_iff "/dev/%N1" .empty .counting).1 "/dev/en1" (by decide) hlike).2
      (all_small_iff.1 (by decide))
  · have hlike : Pattern.like "/usr/%/Kubectl".toList "/usr/local/bin/kubectl".toList = true := by
      decide
    exact ((scan_like_iff "/usr/%/Kubectl" .empty .counting).2 "/usr/local/bin/kubectl" (by decide)
      hlike).2 (all_small_iff.1 (by decide))

/-- **A match may be lost**: of each table, a path that matches a pattern and is not produced. -/
theorem match_is_lost :
    ("/root" ∈ Paths.known ∧ Pattern.like "/ROOT".toList "/root".toList = true ∧
        ¬Produces (Paths.table.scan .counting (.new (likeOn Paths.path "/ROOT") .empty)) Paths.path
          "/root") ∧
      "/sbin/launchd" ∈ Signatures.known ∧
        Pattern.like "/Sbin/%".toList "/sbin/launchd".toList = true ∧
        ¬Produces
          (Signatures.listing.table.scan .counting (.new (likeOn Signatures.path "/Sbin/%") .empty))
          Signatures.path "/sbin/launchd" := by
  have hroot : "/root" ∈ Paths.known := by decide
  have hlaunchd : "/sbin/launchd" ∈ Signatures.known := by decide
  refine ⟨⟨hroot, by decide, ?_⟩, hlaunchd, by decide, ?_⟩
  · rw [Paths.produces_scan_like_iff hroot]
    decide
  · rw [Signatures.produces_scan_like_iff hlaunchd]
    decide

end Sample
end VirtualTables
