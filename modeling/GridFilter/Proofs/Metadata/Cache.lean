import GridFilter.Metadata.Service
import GridFilter.Proofs.Text.Affix
import GridFilter.Proofs.Text.RecordId

/-!
# What the cache may stand for

A cache in front of a store should not be noticed: whatever is asked, in whatever order, the answers
are the store's.  That rests on one law, that two requests kept under the same key have the same
answer.  The law does not hold of all requests.  The key is one text put together from entity, id
and attributes, and the parts are joined as they are, so a mark inside a part is taken for one
between parts; and its id is stripped in another way than the store's (`Cache.key_confuses`).

`Cache.Legible` says of which requests the parts can be told from the key: no slash in the entity,
no question mark in the id, no comma in an attribute, and an id that both ways of stripping bring to
the same record, as they do every GUID (`Cache.Legible.of_isGuid`).  For those the key determines
what the store looks at (`Cache.key_inj`), and a program that asks no others gets from a service
with a cache what it gets from the store (`MemoryStore.cache_unnoticed`).

## The argument

What is kept is what the store would answer (`Cache.Faithful`).  An empty cache is faithful, and
keeping an answer of the store leaves it so by the law above; asking the store changes nothing but
the number of records it was asked for, which goes into no answer.
-/

namespace GridFilter

/-! ## Reading a key -/

namespace Cache

/-- The parts of a request can be told from its key, the id up to its normal form. -/
structure Legible (entity id : String) (columns : List String) : Prop where
  no_slash : '/' ∉ entity.toList
  no_question : '?' ∉ id.toList
  same_record : RecordId.normal (keyId id) = RecordId.normal id
  no_comma : ∀ column ∈ columns, ',' ∉ column.toList
  /-- One attribute without a name would be taken for none. -/
  not_blank : columns ≠ [""]

lemma toList_key (entity id : String) (columns : List String) :
    (key entity id columns).toList =
      entity.toList ++ '/' :: ((keyId id).toList ++
        '?' :: [','].intercalate (columns.map String.toList)) := by
  simp [key, String.toList_intercalate]

/-- A mark that is no letter is in the id already when it is in the key. -/
lemma mem_of_mem_keyId {id : String} {mark : Char} (hmark : mark.toNat < 97)
    (h : mark ∈ (keyId id).toList) : mark ∈ id.toList := by
  rw [keyId, String.toList_ofList] at h
  obtain ⟨c, hc, hlower⟩ := List.mem_map.mp h
  have hsame : mark = c := by
    rcases RecordId.toLower_cases c with hsame | ⟨hlow, -, hshift⟩
    · rw [← hlower, hsame]
    · rw [hlower] at hshift
      omega
  subst hsame
  exact RecordId.mem_of_mem_bareChars hc

/-! ### Ids of records -/

/-- Of a GUID both ways of stripping leave the same. -/
lemma keyId_of_isGuid {id : String} (h : RecordId.isGuid id.toList = true) :
    keyId id = RecordId.normal id := by
  have hblank : Text.trimEnds id.toList = id.toList :=
    Text.trimEnds_eq_self (RecordId.isBlank_of_isGuid h)
  rw [keyId, RecordId.normal, RecordId.normalChars, hblank, String.ofList_inj]
  rcases RecordId.isGuid_cases h with hplain | ⟨inner, hbraced, hinner⟩
  · rw [RecordId.bareChars_eq_self hplain.inGuid, RecordId.stripBraces_eq_self hplain.inGuid]
  · have hchars := RecordId.inGuid_of_isHyphenated hinner
    rw [hbraced, RecordId.stripBraces_braced hchars,
      RecordId.bareChars_cons_append_brace, RecordId.bareChars_eq_self hchars]

/-- The id of a record causes no confusion, with or without braces and in letters of either case. -/
lemma Legible.of_isGuid {entity id : String} {columns : List String}
    (h : RecordId.isGuid id.toList = true) (hentity : '/' ∉ entity.toList)
    (hcolumns : ∀ column ∈ columns, ',' ∉ column.toList) (hblank : columns ≠ [""]) :
    Legible entity id columns where
  no_slash := hentity
  no_question := by
    intro hmem
    rcases RecordId.isGuid_cases h with hplain | ⟨inner, hbraced, hinner⟩
    · exact absurd (hplain.inGuid _ hmem) (by decide)
    · rw [hbraced] at hmem
      simp only [List.mem_cons, List.mem_append, List.not_mem_nil, or_false] at hmem
      rcases hmem with hopen | hinside | hclose
      · exact absurd hopen (by decide)
      · exact absurd (RecordId.inGuid_of_isHyphenated hinner _ hinside) (by decide)
      · exact absurd hclose (by decide)
  same_record := by
    have hsettles : RecordId.Settles id := by
      apply RecordId.settles_of_isGuid
      rwa [Text.trimEnds_eq_self (RecordId.isBlank_of_isGuid h)]
    rw [keyId_of_isGuid h]
    exact hsettles
  no_comma := hcolumns
  not_blank := hblank

/-! ### Telling requests apart -/

/-- Requests that can be told from their keys and share one ask for the same entity, record and
attributes. -/
theorem key_inj {entity id other otherId : String} {columns otherColumns : List String}
    (h : Legible entity id columns) (hother : Legible other otherId otherColumns)
    (hkey : key entity id columns = key other otherId otherColumns) :
    entity = other ∧ RecordId.normal id = RecordId.normal otherId ∧ columns = otherColumns := by
  have hchars := congrArg String.toList hkey
  rw [toList_key, toList_key] at hchars
  -- The first slash ends the entity.
  have hslash := congrArg (Text.splitAtFirst? '/') hchars
  rw [Text.splitAtFirst?_append _ h.no_slash, Text.splitAtFirst?_append _ hother.no_slash,
    Option.some_inj, Prod.mk.injEq] at hslash
  obtain ⟨hentity, hrest⟩ := hslash
  -- The first question mark after it ends the id.
  have hmark := congrArg (Text.splitAtFirst? '?') hrest
  rw [Text.splitAtFirst?_append _ (mt (mem_of_mem_keyId (by decide)) h.no_question),
    Text.splitAtFirst?_append _ (mt (mem_of_mem_keyId (by decide)) hother.no_question),
    Option.some_inj, Prod.mk.injEq] at hmark
  obtain ⟨hid, hcolumns⟩ := hmark
  refine ⟨String.toList_inj.mp hentity, ?_, ?_⟩
  · rw [← h.same_record, ← hother.same_record, String.toList_inj.mp hid]
  · exact Text.joined_inj h.no_comma hother.no_comma h.not_blank hother.not_blank hcolumns

end Cache

/-! ## Answers of a store -/

/-- A request that the cache cannot take for another one. -/
def Request.Legible : Request → Prop
  | .entity _ => True
  | .record metadata id columns => Cache.Legible metadata.logicalName id columns

namespace MemoryStore

variable {α : Type} {store : MemoryStore}

/-- The answer of a store to a request. -/
def reply (store : MemoryStore) (request : Request) : request.Answer :=
  (MetadataSource.answerFrom store request).1

/-- What an inquiry comes to when the store itself is asked. -/
def evaluate (store : MemoryStore) : Inquiry α → α
  | .done value => value
  | .ask request next => store.evaluate (next (store.reply request))

/-- Every request that an inquiry makes of the store can be told from its key. -/
def AsksLegibly (store : MemoryStore) : Inquiry α → Prop
  | .done _ => True
  | .ask request next => request.Legible ∧ store.AsksLegibly (next (store.reply request))

lemma record_eq_of_key_eq (store : MemoryStore) {entity id other otherId : String}
    {columns otherColumns : List String} (h : Cache.Legible entity id columns)
    (hother : Cache.Legible other otherId otherColumns)
    (hkey : Cache.key entity id columns = Cache.key other otherId otherColumns) :
    store.record entity id columns = store.record other otherId otherColumns := by
  obtain ⟨hentity, hid, hcolumns⟩ := Cache.key_inj h hother hkey
  rw [record, record, hentity, hid, hcolumns]

end MemoryStore

/-! ## Faithful caches -/

namespace Cache

variable {store : MemoryStore} {cache : Cache}

/-- What is kept for a request is what the store answers. -/
def Faithful (cache : Cache) (store : MemoryStore) : Prop :=
  ∀ request : Request, request.Legible → ∀ found,
    cache.find? request = some found → store.reply request = .ok found

lemma faithful_empty (store : MemoryStore) : Faithful {} store := by
  intro request _ found hfound
  cases request with
  | entity name => exact absurd hfound.symm (Option.some_ne_none found)
  | record entity id columns => exact absurd hfound.symm (Option.some_ne_none found)

lemma Faithful.keep (h : cache.Faithful store) {request : Request} (hlegible : request.Legible)
    {found : request.Found} (hreply : store.reply request = .ok found) :
    (cache.keep request found).Faithful store := by
  intro other hother otherFound hkept
  cases request with
  | entity name =>
      cases other with
      | record entity id columns => exact h (.record entity id columns) hother otherFound hkept
      | entity otherName =>
          rw [Cache.keep, find?, Association.get?_put] at hkept
          split at hkept
          · next hname =>
              subst hname
              rw [← Option.some_inj.mp hkept, hreply]
          · exact h (.entity otherName) hother otherFound hkept
  | record entity id columns =>
      cases other with
      | entity otherName => exact h (.entity otherName) hother otherFound hkept
      | record otherEntity otherId otherColumns =>
          rw [Cache.keep, find?, Association.get?_put] at hkept
          split at hkept
          · next hkey =>
              have hsame : store.record entity.logicalName id columns =
                  store.record otherEntity.logicalName otherId otherColumns :=
                store.record_eq_of_key_eq hlegible hother hkey
              have hanswer : store.record entity.logicalName id columns = .ok found := hreply
              rw [← Option.some_inj.mp hkept]
              show store.record otherEntity.logicalName otherId otherColumns = .ok found
              rw [← hsame, hanswer]
          · exact h (.record otherEntity otherId otherColumns) hother otherFound hkept

end Cache

/-! ## Services in front of a store -/

namespace MetadataService

variable {α : Type} {store : MemoryStore} {service : MetadataService}

/-- The service answers from the store, and what its cache keeps are answers of the store. -/
structure Serves (service : MetadataService) (store : MemoryStore) : Prop where
  source : ∃ count, service.source = .memory { store with retrievals := count }
  cache : ∀ cache, service.cache = some cache → cache.Faithful store

lemma exists_answer_memory (store : MemoryStore) (count : Nat) (request : Request) :
    ∃ next, (MetadataSource.memory { store with retrievals := count }).answer request =
      (store.reply request, .memory { store with retrievals := next }) := by
  cases request with
  | entity name => exact ⟨count, rfl⟩
  | record metadata id columns => exact ⟨count + 1, rfl⟩

/-- A request past the cache is answered by the store, and what is kept of the answer is true. -/
lemma Serves.fetch (h : service.Serves store) {request : Request} (hlegible : request.Legible) :
    (service.fetch request).1 = store.reply request ∧
      (service.fetch request).2.Serves store := by
  obtain ⟨count, hsource⟩ := h.source
  obtain ⟨next, hanswer⟩ := exists_answer_memory store count request
  rw [MetadataService.fetch, hsource, hanswer]
  refine ⟨rfl, ?_⟩
  dsimp only
  cases hreply : store.reply request with
  | error failure => exact ⟨⟨next, rfl⟩, h.cache⟩
  | ok found =>
      refine ⟨⟨next, rfl⟩, fun cache hcache => ?_⟩
      obtain ⟨before, hbefore, rfl⟩ := Option.map_eq_some_iff.mp hcache
      exact (h.cache before hbefore).keep hlegible hreply

lemma Serves.answer (h : service.Serves store) {request : Request} (hlegible : request.Legible) :
    (service.answer request).1 = store.reply request ∧
      (service.answer request).2.Serves store := by
  rw [MetadataService.answer]
  cases hcached : service.cached? request with
  | none => exact h.fetch hlegible
  | some found =>
      obtain ⟨cache, hcache, hfound⟩ := Option.bind_eq_some_iff.mp hcached
      exact ⟨(h.cache cache hcache request hlegible found hfound).symm, h⟩

/-- A service that answers from the store brings an inquiry to the same end as the store. -/
lemma Serves.run (h : service.Serves store) {inquiry : Inquiry α}
    (hlegible : store.AsksLegibly inquiry) : (service.run inquiry).1 = store.evaluate inquiry := by
  induction inquiry generalizing service with
  | done value => rfl
  | ask request next ih =>
      obtain ⟨hrequest, hrest⟩ := hlegible
      obtain ⟨hanswer, hserves⟩ := h.answer hrequest
      rw [MetadataService.run, MemoryStore.evaluate]
      dsimp only
      rw [hanswer]
      exact ih _ hserves hrest

lemma serves_memory (store : MemoryStore) {cache : Option Cache}
    (h : ∀ kept, cache = some kept → kept.Faithful store) :
    Serves ⟨.memory store, cache⟩ store where
  source := ⟨store.retrievals, rfl⟩
  cache := h

end MetadataService

/-- For requests that can be told from their keys, sharing a key is having the same answer, and no
inquiry that makes no others can tell whether there is a cache. -/
theorem MemoryStore.cache_unnoticed (store : MemoryStore) :
    (∀ entity id columns other otherId otherColumns,
      Cache.Legible entity id columns → Cache.Legible other otherId otherColumns →
        Cache.key entity id columns = Cache.key other otherId otherColumns →
          store.record entity id columns = store.record other otherId otherColumns) ∧
      ∀ {α : Type} (inquiry : Inquiry α), store.AsksLegibly inquiry →
        (MetadataService.run ⟨.memory store, some {}⟩ inquiry).1 =
          (MetadataService.run ⟨.memory store, none⟩ inquiry).1 := by
  constructor
  · intro entity id columns other otherId otherColumns h hother hkey
    exact store.record_eq_of_key_eq h hother hkey
  · intro α inquiry hlegible
    have hempty : ∀ kept, some ({} : Cache) = some kept → kept.Faithful store := by
      intro kept hkept
      rw [← Option.some_inj.mp hkept]
      exact Cache.faithful_empty store
    have hnone : ∀ kept, (none : Option Cache) = some kept → kept.Faithful store :=
      fun kept hkept => absurd hkept.symm (Option.some_ne_none kept)
    rw [(MetadataService.serves_memory store hempty).run hlegible,
      (MetadataService.serves_memory store hnone).run hlegible]

/-- Two spellings of an id are asked for, and the answer to the first is kept for the second. -/
theorem MemoryStore.cache_unnoticed_spellings :
    let braced := "\x7b0B8A4F5E-8B0E-4C8E-9A53-3C1F4A1D9E01\x7d"
    let plain := "0b8a4f5e-8b0e-4c8e-9a53-3c1f4a1d9e01"
    let store := ({} : MemoryStore).addRecord "account" plain [("name", .string "Contoso")]
    let account := EntityMetadata.conventional "account"
    let inquiry : Inquiry (Except MetadataError (Option Record)) :=
      .ask (.record account braced ["name"]) fun _ => .ask (.record account plain ["name"]) .done
    Cache.Legible "account" braced ["name"] ∧ Cache.Legible "account" plain ["name"] ∧
      Cache.key "account" braced ["name"] = Cache.key "account" plain ["name"] ∧
      store.record "account" braced ["name"] = store.record "account" plain ["name"] ∧
      (MetadataService.run ⟨.memory store, some {}⟩ inquiry).1 =
        (MetadataService.run ⟨.memory store, none⟩ inquiry).1 := by
  intro braced plain store account inquiry
  have hbraced : Cache.Legible "account" braced ["name"] :=
    .of_isGuid (by decide +kernel) (by decide) (by decide) (by decide)
  have hplain : Cache.Legible "account" plain ["name"] :=
    .of_isGuid (by decide +kernel) (by decide) (by decide) (by decide)
  have hkey : Cache.key "account" braced ["name"] = Cache.key "account" plain ["name"] := by
    decide +kernel
  obtain ⟨hsame, hrun⟩ := MemoryStore.cache_unnoticed store
  exact ⟨hbraced, hplain, hkey, hsame _ _ _ _ _ _ hbraced hplain hkey,
    hrun inquiry ⟨hbraced, hplain, trivial⟩⟩

/-- A comma in the name of an attribute, or a blank between a brace and an id, makes two requests
share a key that have different answers, and the second is given the answer to the first. -/
theorem Cache.key_confuses :
    let store := ({} : MemoryStore).addRecord "account" "G"
      [("name", .string "Contoso"), ("city", .string "Ulm")]
    let account := EntityMetadata.conventional "account"
    let inquiry : Inquiry (Except MetadataError (Option Record)) :=
      .ask (.record account "G" ["name", "city"]) fun _ =>
        .ask (.record account "G" ["name,city"]) .done
    Cache.key "account" "G" ["name", "city"] = Cache.key "account" "G" ["name,city"] ∧
      store.record "account" "G" ["name", "city"] ≠ store.record "account" "G" ["name,city"] ∧
      Cache.key "account" "\x7b G" [] = Cache.key "account" " G" [] ∧
      store.record "account" "\x7b G" [] ≠ store.record "account" " G" [] ∧
      (MetadataService.run ⟨.memory store, some {}⟩ inquiry).1 ≠
        (MetadataService.run ⟨.memory store, none⟩ inquiry).1 := by
  intro store account inquiry
  -- The answers differ in the number of attributes, or one of them is no record.
  have hdiffer : ∀ answer other : Except MetadataError (Option Record),
      answer.toOption.map (Option.map List.length) ≠ other.toOption.map (Option.map List.length) →
        answer ≠ other := fun _ _ hsize hsame => hsize (by rw [hsame])
  refine ⟨by decide +kernel, ?_, by decide +kernel, ?_, ?_⟩
  · exact hdiffer _ _ (by decide +kernel)
  · exact hdiffer _ _ (by decide +kernel)
  · exact hdiffer _ _ (by decide +kernel)

end GridFilter
