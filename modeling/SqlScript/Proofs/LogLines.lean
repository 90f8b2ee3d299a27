import SqlScript.Log.Logger
import SqlScript.Proofs.JsonText

namespace SqlScript

/-- Values made of null, truth values, integers, texts, lists, and maps from distinct texts. -/
inductive Value.Plain : Value → Prop
  | null : Plain .null
  | bool (b : Bool) : Plain (.bool b)
  | int (n : Int) : Plain (.int n)
  | text (s : String) : Plain (.text s)
  | list {items : List Value} (h : ∀ item ∈ items, Plain item) : Plain (.list items)
  | map {fields : Named} (hnames : (fields.map (·.1)).Nodup) (h : ∀ field ∈ fields, Plain field.2) :
      Plain (.map (fields.map fun field => (.text field.1, field.2)))

namespace Json

/-- No object in the data, at any depth, has two members of one name. -/
inductive Unambiguous : Json → Prop
  | null : Unambiguous .null
  | bool (b : Bool) : Unambiguous (.bool b)
  | int (n : Int) : Unambiguous (.int n)
  | float (x : Float) : Unambiguous (.float x)
  | text (s : String) : Unambiguous (.text s)
  | array {items : List Json} (h : ∀ item ∈ items, Unambiguous item) : Unambiguous (.array items)
  | object {members : List (String × Json)} (hnames : (members.map (·.1)).Nodup)
      (h : ∀ member ∈ members, Unambiguous member.2) : Unambiguous (.object members)

mutual

/-- The value that JSON data stands for: an array is a list, and an object is a map from texts. -/
def toValue : Json → Value
  | .null => .null
  | .bool b => .bool b
  | .int n => .int n
  | .float x => .float x
  | .text s => .text s
  | .array items => .list (toValues items)
  | .object members => .map (toEntries members)

def toValues : List Json → List Value
  | [] => []
  | item :: rest => toValue item :: toValues rest

def toEntries : List (String × Json) → List (Value × Value)
  | [] => []
  | (name, item) :: rest => (.text name, toValue item) :: toEntries rest

end

/-- The JSON form of a value, from which the value can be told again. -/
structure Mirrors (json : Json) (v : Value) : Prop where
  form : ofValue? v = some json
  exact : json.Exact
  unambiguous : json.Unambiguous
  value : json.toValue = v

variable {json : Json} {v : Value} {members : List (String × Json)} {fields : Named} {name : String}

theorem toEntries_eq_map (members : List (String × Json)) :
    toEntries members =
      (members.map fun member => (member.1, member.2.toValue)).map
        fun field => (.text field.1, field.2) := by
  induction members with
  | nil => rfl
  | cons member rest ih => rw [toEntries, ih]; rfl

theorem toValue_eq_text_iff {s : String} : json.toValue = .text s ↔ json = .text s := by
  cases json <;> simp [toValue]

theorem exists_mirrors_items {items : List Value} (h : ∀ item ∈ items, ∃ json, Mirrors json item) :
    ∃ jsons, ofValues? items = some jsons ∧ toValues jsons = items ∧
      ∀ json ∈ jsons, json.Exact ∧ json.Unambiguous := by
  induction items with
  | nil => exact ⟨[], rfl, rfl, by simp⟩
  | cons item items ih =>
    obtain ⟨hitem, hitems⟩ := List.forall_mem_cons.1 h
    obtain ⟨json, hjson⟩ := hitem
    obtain ⟨jsons, hforms, hvalues, hdata⟩ := ih hitems
    refine ⟨json :: jsons, ?_, ?_, ?_⟩
    · simp [ofValues?, hjson.form, hforms]
    · rw [toValues, hjson.value, hvalues]
    · exact List.forall_mem_cons.2 ⟨⟨hjson.exact, hjson.unambiguous⟩, hdata⟩

theorem exists_mirrors_fields (h : ∀ field ∈ fields, ∃ json, Mirrors json field.2) :
    ∃ members, ofEntries? (fields.map fun field => (.text field.1, field.2)) = some members ∧
      members.map (fun member => (member.1, member.2.toValue)) = fields ∧
      ∀ member ∈ members, member.2.Exact ∧ member.2.Unambiguous := by
  induction fields with
  | nil => exact ⟨[], rfl, rfl, by simp⟩
  | cons field fields ih =>
    obtain ⟨hfield, hfields⟩ := List.forall_mem_cons.1 h
    obtain ⟨json, hjson⟩ := hfield
    obtain ⟨members, hforms, hvalues, hdata⟩ := ih hfields
    refine ⟨(field.1, json) :: members, ?_, ?_, ?_⟩
    · simp [ofEntries?, keyName?, hjson.form, hforms]
    · rw [List.map_cons, hvalues, hjson.value]
    · exact List.forall_mem_cons.2 ⟨⟨hjson.exact, hjson.unambiguous⟩, hdata⟩

theorem exists_mirrors (h : v.Plain) : ∃ json, Mirrors json v := by
  induction h with
  | null => exact ⟨.null, rfl, .null, .null, rfl⟩
  | bool b => exact ⟨.bool b, rfl, .bool b, .bool b, rfl⟩
  | int n => exact ⟨.int n, rfl, .int n, .int n, rfl⟩
  | text s => exact ⟨.text s, rfl, .text s, .text s, rfl⟩
  | list _ ih =>
    obtain ⟨jsons, hforms, hvalues, hdata⟩ := exists_mirrors_items ih
    refine ⟨.array jsons, ?_, .array fun json hjson => (hdata json hjson).1,
      .array fun json hjson => (hdata json hjson).2, ?_⟩
    · rw [ofValue?, hforms, Option.map_some]
    · rw [toValue, hvalues]
  | @map fields hnames _ ih =>
    obtain ⟨members, hforms, hvalues, hdata⟩ := exists_mirrors_fields ih
    have hmembers : members.map (·.1) = fields.map (·.1) := by
      rw [← hvalues, List.map_map]
      rfl
    refine ⟨.object members, ?_, .object fun member hmember => (hdata member hmember).1,
      .object (hmembers ▸ hnames) fun member hmember => (hdata member hmember).2, ?_⟩
    · rw [ofValue?, hforms, Option.map_some]
    · rw [toValue, toEntries_eq_map, hvalues]

theorem exists_object_of_toValue
    (h : json.toValue = .map (fields.map fun field => (.text field.1, field.2))) :
    ∃ members, json = .object members ∧
      members.map (fun member => (member.1, member.2.toValue)) = fields := by
  have hinjective : Function.Injective fun field : String × Value =>
      (Value.text field.1, field.2) := by
    rintro ⟨name, v⟩ ⟨name', v'⟩ heq
    simpa using heq
  cases json with
  | object members =>
    rw [toValue, toEntries_eq_map, Value.map.injEq] at h
    exact ⟨members, rfl, List.map_injective_iff.2 hinjective h⟩
  | _ => simp [toValue] at h

theorem lookup_map_toValue (members : List (String × Json)) (name : String) :
    (members.map fun member => (member.1, member.2.toValue)).lookup name =
      (members.lookup name).map toValue := by
  induction members with
  | nil => rfl
  | cons member rest ih =>
    rw [List.map_cons, List.lookup_cons, List.lookup_cons, ih]
    cases name == member.1 <;> rfl

theorem exists_members (h : ∀ field ∈ fields, (ofValue? field.2).isSome = true) :
    ∃ members, ofEntries? (fields.map fun field => (.text field.1, field.2)) = some members ∧
      members.map (·.1) = fields.map (·.1) ∧
      ∀ name, members.lookup name = (fields.lookup name).bind ofValue? := by
  induction fields with
  | nil => exact ⟨[], rfl, rfl, fun name => rfl⟩
  | cons field fields ih =>
    obtain ⟨hfield, hfields⟩ := List.forall_mem_cons.1 h
    obtain ⟨json, hjson⟩ := Option.isSome_iff_exists.1 hfield
    obtain ⟨members, hforms, hnames, hlookup⟩ := ih hfields
    refine ⟨(field.1, json) :: members, ?_, ?_, fun name => ?_⟩
    · simp [ofEntries?, keyName?, hjson, hforms]
    · rw [List.map_cons, List.map_cons, hnames]
    · rw [List.lookup_cons, List.lookup_cons, hlookup]
      cases name == field.1
      · rfl
      · exact hjson.symm

end Json

namespace Named

variable {named base changes : Named} {name : String}

theorem lookup_cons (e : String × Value) (rest : Named) (name : String) :
    List.lookup name (e :: rest) = if name = e.1 then some e.2 else rest.lookup name := by
  rw [List.lookup_cons]
  split <;> simp_all

theorem lookup_set (named : Named) (name : String) (v : Value) (other : String) :
    (named.set name v).lookup other = if other = name then some v else named.lookup other := by
  induction named with
  | nil => exact lookup_cons (name, v) [] other
  | cons e rest ih =>
    rw [set, lookup_cons]
    split
    · next he =>
      rw [lookup_cons, he]
      split <;> rfl
    · next he =>
      rw [lookup_cons, ih]
      by_cases h : other = e.1
      · simp [h, he]
      · simp [h]

theorem mem_set {P : Value → Prop} {v : Value} (hnamed : ∀ field ∈ named, P field.2) (hv : P v) :
    ∀ field ∈ named.set name v, P field.2 := by
  induction named with
  | nil => simpa [set] using hv
  | cons e rest ih =>
    obtain ⟨he, hrest⟩ := List.forall_mem_cons.1 hnamed
    rw [set]
    split
    · exact List.forall_mem_cons.2 ⟨hv, hrest⟩
    · exact List.forall_mem_cons.2 ⟨he, ih hrest⟩

theorem mem_merge {P : Value → Prop} (hbase : ∀ field ∈ base, P field.2)
    (hchanges : ∀ field ∈ changes, P field.2) : ∀ field ∈ base.merge changes, P field.2 := by
  rw [merge]
  induction changes generalizing base with
  | nil => exact hbase
  | cons e rest ih =>
    obtain ⟨he, hrest⟩ := List.forall_mem_cons.1 hchanges
    exact ih (mem_set hbase he) hrest

theorem mem_names_set {other : String} {v : Value} (h : other ∈ (named.set name v).map (·.1)) :
    other = name ∨ other ∈ named.map (·.1) := by
  induction named with
  | nil => simpa [set] using h
  | cons e rest ih =>
    rw [set] at h
    split at h
    · next he =>
      rw [List.map_cons, List.mem_cons] at h
      exact h.imp_right (List.mem_cons_of_mem e.1)
    · rw [List.map_cons, List.mem_cons] at h
      rcases h with rfl | h
      · exact .inr (by simp)
      · exact (ih h).imp_right (List.mem_cons_of_mem e.1)

theorem nodup_set (h : (named.map (·.1)).Nodup) (name : String) (v : Value) :
    ((named.set name v).map (·.1)).Nodup := by
  induction named with
  | nil => simp [set]
  | cons e rest ih =>
    obtain ⟨he, hrest⟩ := List.nodup_cons.1 h
    rw [set]
    split
    · next heq => exact heq ▸ h
    · next hne =>
      refine List.nodup_cons.2 ⟨fun hmem => ?_, ih hrest⟩
      exact (mem_names_set hmem).elim hne he

theorem nodup_merge (h : (base.map (·.1)).Nodup) (changes : Named) :
    ((base.merge changes).map (·.1)).Nodup := by
  rw [merge]
  induction changes generalizing base with
  | nil => exact h
  | cons e rest ih => exact ih (nodup_set h e.1 e.2)

/-- The last change of a name gives it its value. -/
theorem lookup_merge (base changes : Named) (name : String) :
    (base.merge changes).lookup name = (changes.reverse.lookup name).or (base.lookup name) := by
  rw [merge]
  induction changes generalizing base with
  | nil => rfl
  | cons e rest ih =>
    rw [List.foldl_cons, ih, lookup_set, List.reverse_cons, List.lookup_append, Option.or_assoc,
      lookup_cons]
    split <;> rfl

end Named

namespace Log

variable {r : Record} {level : Int} {logger message : String} {context : Named}

theorem eq_of_withContext (h : Record.withContext level logger message context = .ok r) :
    r = { level, logger, message, context } ∧
      ∀ name ∈ ["logger", "level", "message"], context.reverse.lookup name = none := by
  rw [Record.withContext] at h
  obtain ⟨hfree, hr⟩ := of_rejectReserved_bind h
  cases hr
  refine ⟨rfl, fun name hname => List.lookup_eq_none_iff.2 fun field hfield => ?_⟩
  have hfield := hfree field.1 (List.mem_map_of_mem (List.mem_reverse.1 hfield))
  simpa using ne_of_mem_of_not_mem hname hfield

/-- The fields of a record that do not come from its context. -/
def ownFields (r : Record) (timestamp : String) : Named :=
  [("timestamp", .text timestamp), ("level", .text (levelName r.level)),
    ("logger", .text r.logger), ("message", .text r.message)]

theorem fields_eq_merge (timestamp : String) (hfailure : r.failure = none) :
    r.fields timestamp = (ownFields r timestamp).merge r.context := by
  rw [Record.fields, hfailure, ownFields]

theorem lookup_fields (timestamp : String) (hfailure : r.failure = none) (name : String) :
    (r.fields timestamp).lookup name =
      (r.context.reverse.lookup name).or ((ownFields r timestamp).lookup name) := by
  rw [fields_eq_merge timestamp hfailure, Named.lookup_merge]

theorem plain_fields (timestamp : String) (hfailure : r.failure = none)
    (hcontext : ∀ field ∈ r.context, field.2.Plain) :
    (Value.map ((r.fields timestamp).map fun field => (.text field.1, field.2))).Plain := by
  rw [fields_eq_merge timestamp hfailure]
  refine .map (Named.nodup_merge (by simp [ownFields]) _) (Named.mem_merge ?_ hcontext)
  simp [ownFields, Value.Plain.text]

/-- What a record with context is written as. The simple line has its level, its logger and its
message. The structured one is a JSON object that names nothing twice: it has the record's own
level, logger and message, and apart from these the names of the context, each with the JSON form of
its value, and a timestamp. It reads back as that object where no value is a floating-point
number. -/
inductive IsLine (timestamp : String) (r : Record) : Format → List Char → Prop
  | simple : IsLine timestamp r .simple
      (levelName r.level ++ " " ++ r.logger ++ ": " ++ r.message).toList
  | structured {members : List (String × Json)} (hnames : (members.map (·.1)).Nodup)
      (hlevel : members.lookup "level" = some (.text (levelName r.level)))
      (hlogger : members.lookup "logger" = some (.text r.logger))
      (hmessage : members.lookup "message" = some (.text r.message))
      (hothers : ∀ name ∉ ["logger", "level", "message"], members.lookup name =
        ((r.context.reverse.lookup name).or
          (if name = "timestamp" then some (.text timestamp) else none)).bind Json.ofValue?)
      (hread : (∀ field ∈ r.context, field.2.Plain) →
        Json.read? (Json.object members).write = some (.object members)) :
      IsLine timestamp r .structured (Json.object members).write

/-- A record whose context has a JSON form and leaves its own names alone has a line in every
format. -/
theorem exists_isLine (format : Format) (timestamp : String) (hfailure : r.failure = none)
    (hfree : ∀ name ∈ ["logger", "level", "message"], r.context.reverse.lookup name = none)
    (hcontext : ∀ field ∈ r.context, (Json.ofValue? field.2).isSome = true) :
    ∃ line, format.line timestamp r = .ok line ∧ IsLine timestamp r format line := by
  cases format with
  | simple => exact ⟨_, rfl, .simple⟩
  | structured =>
    have hfields : ∀ field ∈ r.fields timestamp, (Json.ofValue? field.2).isSome = true := by
      rw [fields_eq_merge timestamp hfailure]
      refine Named.mem_merge (P := fun v => (Json.ofValue? v).isSome = true) ?_ hcontext
      simp [ownFields, Json.ofValue?]
    obtain ⟨members, hforms, hnames, hlookup⟩ := Json.exists_members hfields
    have hform : Json.ofValue?
        (.map ((r.fields timestamp).map fun field => (.text field.1, field.2))) =
          some (.object members) := by
      rw [Json.ofValue?, hforms, Option.map_some]
    have hown {name s : String} (hname : name ∈ ["logger", "level", "message"])
        (hs : (ownFields r timestamp).lookup name = some (.text s)) :
        members.lookup name = some (.text s) := by
      rw [hlookup, lookup_fields timestamp hfailure, hfree name hname, Option.none_or, hs]
      rfl
    refine ⟨(Json.object members).write, ?_, .structured ?_ (hown (by simp) ?_) (hown (by simp) ?_)
      (hown (by simp) ?_) (fun name hname => ?_) fun hplain => ?_⟩
    · rw [Format.line, Record.structured, Value.encode, hform]
    · rw [hnames, fields_eq_merge timestamp hfailure]
      exact Named.nodup_merge (by simp [ownFields]) _
    · simp [ownFields, Named.lookup_cons]
    · simp [ownFields, Named.lookup_cons]
    · simp [ownFields, Named.lookup_cons]
    · rw [hlookup, lookup_fields timestamp hfailure]
      simp only [List.mem_cons, List.not_mem_nil, or_false, not_or] at hname
      simp [ownFields, Named.lookup_cons, hname]
    · obtain ⟨json, hjson⟩ := Json.exists_mirrors (plain_fields timestamp hfailure hplain)
      obtain rfl : json = .object members := Option.some.inj (hjson.form.symm.trans hform)
      exact Json.read?_write hjson.exact

/-- The structured line of a record with context, whatever plain values the context holds. The line
has no controls, so it is one line, and it reads back as one object in which nothing is named twice.
The level, the logger and the message in it are the record's own, and each name of the context comes
with its value. -/
theorem structured_withContext (timestamp : String)
    (hr : Record.withContext level logger message context = .ok r)
    (hcontext : ∀ field ∈ context, field.2.Plain) :
    ∃ (line : List Char) (members : List (String × Json)),
      Format.structured.line timestamp r = .ok line ∧
      (∀ c ∈ line, 0x20 ≤ c.toNat) ∧
      Json.read? line = some (.object members) ∧
      (Json.object members).Unambiguous ∧
      members.lookup "level" = some (.text (levelName level)) ∧
      members.lookup "logger" = some (.text logger) ∧
      members.lookup "message" = some (.text message) ∧
      ∀ name v, context.reverse.lookup name = some v →
        ∃ json, members.lookup name = some json ∧ json.toValue = v := by
  obtain ⟨rfl, hfree⟩ := eq_of_withContext hr
  have hplain := plain_fields (r := { level, logger, message, context }) timestamp rfl hcontext
  obtain ⟨json, hjson⟩ := Json.exists_mirrors hplain
  obtain ⟨members, rfl, hmembers⟩ := Json.exists_object_of_toValue hjson.value
  have hlookup (name : String) : (members.lookup name).map Json.toValue =
      (context.reverse.lookup name).or
        ((ownFields { level, logger, message, context } timestamp).lookup name) := by
    rw [← Json.lookup_map_toValue, hmembers, lookup_fields timestamp rfl]
  -- Only the timestamp may come from the context: the other names are not free there.
  have hown {name s : String} (hname : name ∈ ["logger", "level", "message"])
      (hs : (ownFields { level, logger, message, context } timestamp).lookup name =
        some (.text s)) : members.lookup name = some (.text s) := by
    have h := hlookup name
    rw [hfree name hname, Option.none_or, hs] at h
    obtain ⟨json, hjson, hvalue⟩ := Option.map_eq_some_iff.1 h
    rw [hjson, Json.toValue_eq_text_iff.1 hvalue]
  refine ⟨_, members, ?_, hjson.exact.le_of_mem_write, Json.read?_write hjson.exact,
    hjson.unambiguous, hown (by simp) ?_, hown (by simp) ?_, hown (by simp) ?_, fun name v hv => ?_⟩
  · rw [Format.line, Record.structured, Value.encode, hjson.form]
  · simp [ownFields, Named.lookup_cons]
  · simp [ownFields, Named.lookup_cons]
  · simp [ownFields, Named.lookup_cons]
  · exact Option.map_eq_some_iff.1 (by rw [hlookup, hv, Option.some_or])

theorem structured_withContext_of_controls :
    let context : Named :=
      [("timestamp", .null), ("n", .list [.int 1, .map [(.text "a\n", .bool true)]])]
    ∃ (line : List Char) (members : List (String × Json)),
      Record.withContext 30 "sqlsplit.a" "x\ny\"" context =
        .ok ⟨30, "sqlsplit.a", "x\ny\"", context, none⟩ ∧
      Format.structured.line "T" ⟨30, "sqlsplit.a", "x\ny\"", context, none⟩ = .ok line ∧
      (∀ c ∈ line, 0x20 ≤ c.toNat) ∧
      Json.read? line = some (.object members) ∧
      members.lookup "message" = some (.text "x\ny\"") ∧
      ∃ json, members.lookup "timestamp" = some json ∧ json.toValue = .null := by
  intro context
  have hr : Record.withContext 30 "sqlsplit.a" "x\ny\"" context =
      .ok ⟨30, "sqlsplit.a", "x\ny\"", context, none⟩ := rfl
  have hmap : (Value.map [(.text "a\n", .bool true)]).Plain :=
    @Value.Plain.map [("a\n", .bool true)] (by simp) (by simp [Value.Plain.bool])
  have hcontext : ∀ field ∈ context, field.2.Plain := by
    simp only [context, List.forall_mem_cons]
    refine ⟨.null, .list ?_, by simp⟩
    simp only [List.forall_mem_cons]
    exact ⟨.int 1, hmap, by simp⟩
  obtain ⟨line, members, hline, hcontrols, hread, -, -, -, hmessage, hnames⟩ :=
    structured_withContext "T" hr hcontext
  exact ⟨line, members, hr, hline, hcontrols, hread, hmessage,
    hnames "timestamp" .null (by simp [context, Named.lookup_cons])⟩

end Log

end SqlScript
