import GridFilter.Metadata.Service
import GridFilter.Proofs.Text.RecordId

/-!
# Answers over the web

What a client of the web service answers is in the hands of its transport.  This is what can be said
over every transport.  A record is missing when the service says so in its status and in no other
case (`WebClient.record_eq_none_iff`); what the service says about a record is no attribute of it
(`WebClient.isAnnotation_of_record`); and braces around an id change nothing but the id that is
reported, with a cache or without one (`MetadataService.lookup_braced`).
-/

namespace GridFilter

variable {entity : EntityMetadata} {id : String} {columns : List String}

/-! ## One request -/

namespace WebClient

variable {client : WebClient}

lemma get_eq_none_iff {path : String} :
    client.get path = .ok none ↔
      ∃ response, client.transport (client.request path) = .ok response ∧
        response.status = 404 := by
  rw [get]
  cases client.transport (client.request path) with
  | error detail => simp
  | ok response =>
      by_cases hmissing : response.status = 404
      · simp [hmissing]
      · cases hread : readBody response <;> cases hsuccess : response.isSuccess <;>
          simp [hmissing, hread, hsuccess, Except.map]

/-- That an entity is unknown is for the reader of a definition to say. -/
lemma get_ne_unknown (path name : String) : client.get path ≠ .error (.unknownEntity name) := by
  rw [get]
  cases client.transport (client.request path) with
  | error detail => simp
  | ok response =>
      by_cases hmissing : response.status = 404
      · simp [hmissing]
      · cases hsuccess : response.isSuccess
        · simp [hmissing, hsuccess]
        · have hread : readBody response ≠ .error (.unknownEntity name) := by
            rw [readBody]
            split
            · simp
            · split <;> simp
          cases hbody : readBody response with
          | error failure =>
              rw [hbody] at hread
              simpa [hmissing, hsuccess, hbody, Except.map] using hread
          | ok value => simp [hmissing, hsuccess, hbody, Except.map]

/-- A record is missing when the service says so, and never because something failed. -/
theorem record_eq_none_iff :
    client.record entity id columns = .ok none ↔
      ∃ response, client.transport (client.request (recordPath entity id columns)) = .ok response ∧
        response.status = 404 := by
  rw [← get_eq_none_iff, record]
  cases client.get (recordPath entity id columns) with
  | error failure => simp
  | ok found =>
      cases found with
      | none => simp
      | some body => cases body <;> simp

/-- So is an entity unknown when the service says so, and it is the one that was asked for. -/
theorem entity_eq_unknown_iff {name unknown : String} :
    client.entity name = .error (.unknownEntity unknown) ↔
      unknown = name ∧ ∃ response,
        client.transport (client.request (entityPath name)) = .ok response ∧
          response.status = 404 := by
  rw [← get_eq_none_iff, entity]
  cases hget : client.get (entityPath name) with
  | error failure =>
      have hfailure : failure ≠ .unknownEntity unknown := by
        rintro rfl
        exact get_ne_unknown _ _ hget
      simpa using hfailure
  | ok found =>
      cases found with
      | none => simp [eq_comm]
      | some body => cases hread : EntityDefinition.shape.decode (.ofJson body) <;> simp [hread]

/-- What the service says about a record is left out of it. -/
theorem isAnnotation_of_record {record : Record}
    (h : client.record entity id columns = .ok (some record)) :
    ∀ member ∈ record, Record.isAnnotation member = false := by
  rw [WebClient.record] at h
  cases hget : client.get (recordPath entity id columns) with
  | error failure => simp [hget] at h
  | ok found =>
      cases found with
      | none => simp [hget] at h
      | some body =>
          cases body with
          | object members =>
              rw [hget] at h
              obtain rfl : members.filter (fun member => !Record.isAnnotation member) = record :=
                Option.some.inj (Except.ok.inj h)
              intro member hmem
              exact (Bool.not_eq_true' _).mp (List.mem_filter.mp hmem).2
          | _ => simp [hget] at h

/-! ## Braces -/

lemma recordPath_braced (entity : EntityMetadata) (id : String) (columns : List String) :
    recordPath entity (RecordId.braced id) columns = recordPath entity id columns := by
  rw [recordPath, recordPath, RecordId.bareChars_braced]

example : recordPath (.conventional "account") "\x7b6f0d3c1e\x7d" ["name"] =
    "accounts(6f0d3c1e)?$select=name" := by decide +kernel

lemma record_braced (client : WebClient) (entity : EntityMetadata) (id : String)
    (columns : List String) :
    client.record entity (RecordId.braced id) columns = client.record entity id columns := by
  rw [record, record, recordPath_braced]

end WebClient

lemma Cache.key_braced (entity id : String) (columns : List String) :
    key entity (RecordId.braced id) columns = key entity id columns := by
  rw [key, key, keyId, keyId, RecordId.bareChars_braced]

namespace MetadataService

variable {service : MetadataService} {client : WebClient}

/-- A service over the web stays one. -/
lemma source_answer (h : service.source = .web client) (request : Request) :
    (service.answer request).2.source = .web client := by
  rw [answer]
  cases service.cached? request with
  | some found => exact h
  | none =>
      rw [fetch, h]
      simp only [MetadataSource.answer, remember]
      split <;> rfl

lemma answer_braced (h : service.source = .web client) (entity : EntityMetadata) (id : String)
    (columns : List String) :
    service.answer (.record entity (RecordId.braced id) columns) =
      service.answer (.record entity id columns) := by
  simp only [answer, cached?, Cache.find?, fetch, h, MetadataSource.answer, WebClient.answer,
    remember, Cache.keep, Cache.key_braced, WebClient.record_braced]
  cases service.cache.bind fun cache =>
      cache.records.get? (Cache.key entity.logicalName id columns) with
  | some kept => rfl
  | none => cases client.record entity id columns <;> rfl

/-- Braces around an id are in the id that is reported and make no other difference. -/
theorem lookup_braced (h : service.source = .web client) (name id : String) :
    service.run (.lookup name id) =
      ((service.run (.lookup name (RecordId.braced id))).1.map
          (Option.map fun found => { found with id := id }),
        (service.run (.lookup name (RecordId.braced id))).2) := by
  have hnext := source_answer h (.entity name)
  rw [Inquiry.lookup, Inquiry.lookup, run, run]
  cases hdescribed : service.answer (.entity name) with
  | mk described next =>
      rw [hdescribed] at hnext
      cases described with
      | error failure => rfl
      | ok metadata =>
          dsimp only
          rw [run, run, answer_braced hnext]
          cases next.answer (.record metadata id [metadata.primaryNameAttribute]) with
          | mk answered last =>
              cases answered with
              | error failure => rfl
              | ok record => cases record <;> rfl

end MetadataService

end GridFilter
