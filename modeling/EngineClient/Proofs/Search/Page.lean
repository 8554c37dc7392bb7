import EngineClient.Proofs.Json.Surroundings
import EngineClient.Proofs.Search.Hydration

/-!
# Search responses

The text of a search response, taken apart around the sources of its hits: a `ResultPage` is all
that stands around the hits, and a `HitText` all that stands around the source of one of them. What
an engine adds in either place is left open. Four levels of nesting stand around a source, so 123 of
the 127 that a reader accepts are left for it.

* `Search.ResultPage.Fits.parse_bytes` — the text is read as the page with the hits in it;
* `Search.HitText.Fits.hitDocument_filled` — the document of a hit is its source with the synthetic
  keys;
* `Search.ResultPage.Fits.readResult_eq_ok_iff` — with an exact total, a result has one record for
  each hit.
-/

namespace EngineClient.Search

open Json Fallible

/-! ## Totals -/

/-- The value says that there are `n` in total: as a number, or as an object that has the number and
no other relation than equality. -/
inductive ExactTotal (n : ℕ) : Json → Prop where
  | number {v : Json.Number} (value : v.value = n) : ExactTotal n (.number v)
  | object {fields : Fields} {v : Json.Number} (number : fields.get? "value" = some (.number v))
    (value : v.value = n)
    (relation : ∀ r, fields.get? "relation" = some r → r = .string HitTotal.exactRelation) :
    ExactTotal n (.object fields)

section Totals

open HitTotal

variable {n : ℕ}

/-- A total that is exact and not too large is taken as it is. -/
theorem ofBody_of_exactTotal {body value : Json}
    (found : (body.get? "hits").bind (·.get? "total") = some value) (exact : ExactTotal n value)
    (small : n ≤ maximum) :
    ∃ total, ofBody body = .ok total ∧ total.bounded = .ok n ∧ total.isLowerBound = false := by
  have fits : n < UInt64.size := Nat.lt_of_le_of_lt small (by decide)
  have read {v : Json.Number} (value : v.value = n) : readNumber (.number v) = .ok n :=
    readNumber_eq_ok_iff.mpr ⟨v, rfl, value, fits⟩
  have bounded : bounded ⟨n, statedRelation? body⟩ = .ok n := bounded_eq_ok_iff.mpr ⟨small, rfl⟩
  refine ⟨_, ofBody_eq_ok_iff.mpr ⟨?_, rfl⟩, bounded, ?_⟩
  · rw [statedTotal?, found]
    cases exact with
    | number value => exact read value
    | object number value relation =>
      dsimp only
      rw [number]
      exact read value
  · rw [isLowerBound, statedRelation?, found]
    cases exact with
    | number => rfl
    | @object fields v number value relation =>
      show (((Fields.get? fields "relation").bind asString?).any _) = false
      cases stated : fields.get? "relation" with
      | none => rfl
      | some r =>
        rw [relation r stated]
        rfl

end Totals

/-! ## Hits -/

/-- What stands around the source of a hit, in the hit and beside it. -/
structure HitText where
  front : Bytes
  around : Surroundings
  back : Bytes

namespace HitText

variable (hit : HitText)

/-- The text of the hit with the text of a source put in. -/
def bytes (text : Bytes) : Bytes :=
  hit.front ++ hit.around.fill text ++ hit.back

/-- The hit as an item of the array of hits, with a source put in. -/
def item (text : Bytes) (source : Json) : Item :=
  ⟨hit.front ++ hit.around.fill text, hit.around.filled source, hit.back⟩

/-- The hit has the index, the id and a place for a source, and can be read. -/
structure Fits (index id : String) : Prop where
  front : IsBlank hit.front
  around : hit.around.Fits 123
  source : hit.around.key = "_source"
  index : hit.around.others.get? "_index" = some (.string index)
  id : hit.around.others.get? "_id" = some (.string id)
  back : IsBlank hit.back

variable {hit} {index id : String}

theorem Fits.item (fits : hit.Fits index id) {text : Bytes} {source : Json}
    (taken : TakenFor 123 text source) : (hit.item text source).Fits 124 :=
  ⟨(fits.around.takenFor_fill taken).blank_append fits.front, fits.back⟩

theorem Fits.isHit_filled (fits : hit.Fits index id) (document : Document) :
    IsHit (hit.around.filled document.toJson) index id document where
  id := by rw [fits.around.get?_filled, fits.source, if_neg (by decide), fits.id]
  index := by rw [fits.around.get?_filled, fits.source, if_neg (by decide), fits.index]
  source := by
    refine .object ?_
    rw [fits.around.get?_filled, fits.source, if_pos rfl]
    rfl

theorem Fits.hitDocument_filled (fits : hit.Fits index id) (document : Document) (idKey : String)
    (style : FetchStyle) :
    hitDocument idKey style (hit.around.filled document.toJson) =
      .ok (document.withSyntheticKeys index idKey id style) :=
  hitDocument_eq_ok_iff.mpr ⟨index, id, document, fits.isHit_filled document, rfl⟩

end HitText

/-! ## Pages -/

/-- What stands around the hits of a search response. -/
structure ResultPage where
  front : Bytes
  outer : Surroundings
  inner : Surroundings
  lead : Bytes
  back : Bytes

namespace ResultPage

variable (page : ResultPage)

/-- The text of the response with the texts of the hits put in. -/
def bytes (hits : List Bytes) : Bytes :=
  page.front ++ page.outer.fill (page.inner.fill (arrayText page.lead hits)) ++ page.back

/-- The response with the hits put in. -/
def body (hits : List Json) : Json :=
  page.outer.filled (page.inner.filled (.array hits))

/-- The page has a place for hits and an exact total, and can be read. -/
structure Fits (total : ℕ) : Prop where
  front : IsBlank page.front
  outer : page.outer.Fits 126
  hits : page.outer.key = "hits"
  inner : page.inner.Fits 125
  list : page.inner.key = "hits"
  lead : IsBlank page.lead
  back : IsBlank page.back
  total : ∃ value, page.inner.others.get? "total" = some value ∧ ExactTotal total value

variable {page} {total : ℕ}

theorem Fits.parse_bytes (fits : page.Fits total) {items : List Item}
    (all : ∀ item ∈ items, item.Fits 124) :
    parse (page.bytes (items.map Item.bytes)) = .ok (page.body (items.map Item.value)) := by
  have list := takenFor_arrayText fits.lead all
  have whole := fits.outer.takenFor_fill (fits.inner.takenFor_fill list)
  exact parse_of_takenFor (whole.blank_append fits.front) fits.back

theorem Fits.get?_hits_body (fits : page.Fits total) (hits : List Json) :
    (page.body hits).get? "hits" = some (page.inner.filled (.array hits)) := by
  rw [body, fits.outer.get?_filled, fits.hits, if_pos rfl]

theorem Fits.hitsOf_body (fits : page.Fits total) (hits : List Json) :
    hitsOf (page.body hits) = hits := by
  rw [hitsOf, fits.get?_hits_body, Option.bind_some, fits.inner.get?_filled, fits.list,
    if_pos rfl]
  rfl

theorem Fits.total_body (fits : page.Fits total) (hits : List Json) :
    ((page.body hits).get? "hits").bind (·.get? "total") = page.inner.others.get? "total" := by
  rw [fits.get?_hits_body, Option.bind_some, fits.inner.get?_filled, fits.list,
    if_neg (by decide)]

/-- With an exact total, a result has one record for each hit, in the order of the hits. -/
theorem Fits.readResult_eq_ok_iff {S α : Type} (fits : page.Fits total)
    (small : total ≤ HitTotal.maximum) {codec : RecordCodec S} {style : FetchStyle}
    {hits : List α} {value : α → Json} {Gives : α → S → Prop}
    (each : ∀ hit ∈ hits, ∀ record, hitRecord codec style (value hit) = .ok record ↔
      Gives hit record) (records : List S) :
    readResult codec style (page.body (hits.map value)) = .ok ⟨total, false, records⟩ ↔
      List.Forall₂ Gives hits records := by
  obtain ⟨stated, found, exact⟩ := fits.total
  rw [← fits.total_body (hits.map value)] at found
  obtain ⟨counted, read, bounded, lower⟩ := ofBody_of_exactTotal found exact small
  have all : hits.mapM (hitRecord codec style ∘ value) = .ok records ↔
      List.Forall₂ Gives hits records := mapM_eq_ok_iff each records
  rw [readResult, fits.hitsOf_body, List.mapM_map, ← all]
  simp only [read, Reader.ok_bind, bounded, lower]
  cases hits.mapM (hitRecord codec style ∘ value) <;> simp [bind, Except.bind, pure, Except.pure]

end ResultPage

end EngineClient.Search
