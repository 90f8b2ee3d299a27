import SqlScript.Log.Session
import SqlScript.Proofs.LogLines
import Mathlib.Data.List.Induction

namespace SqlScript.Log

/-- The level and the format that a change of configuration names, if both are known. -/
def settings? (levelText formatText : Option String) : Option (Int × Format) :=
  match levelOfName? (levelText.getD "INFO"), Format.ofName? (formatText.getD "structured") with
  | some level, some format => some (level, format)
  | _, _ => none

namespace Request

def settings? : Request → Option (Int × Format)
  | .configure levelText formatText => Log.settings? levelText formatText
  | _ => none

/-- The record of a call that logs one. Its context may not use the names of the call itself. -/
def record? : Request → Option Record
  | .contextual logger level message context =>
    if ∀ field ∈ context, field.1 ∉ ["logger", "level", "message"] then
      some { level, logger := loggerName logger, message, context }
    else none
  | .plain logger level message => some { level, logger := loggerName logger, message }
  | _ => none

end Request

/-- The settings of the last change of configuration that goes through. -/
def lastSettings? (requests : List Request) : Option (Int × Format) :=
  requests.reverse.findSome? Request.settings?

/-- The settings that some names stand for, or those of a logger that was never configured. -/
def Settings.ofNames : Option (Int × Format) → Settings
  | none => {}
  | some (level, format) => ⟨[format], level, false⟩

/-- The level from which a logger with these settings lets records pass. -/
def Settings.threshold (settings : Settings) : Int :=
  if settings.level = 0 then applicationLevel else settings.level

/-- The name has two dots behind that of the root. -/
def SkipsRoot (name : String) : Prop :=
  rootName.toList ++ ['.', '.'] <+: name.toList

/-- The name of a logger that hands its records on to the root, whatever loggers are made. -/
def IsBelowRoot (name : String) : Prop :=
  name = rootName ∨ ∃ rest, name.toList = rootName.toList ++ '.' :: rest ∧ rest.head? ≠ some '.'

namespace Logger

/-- The logger at the end of a session. -/
def after (l : Logger) (timestamp : String) (requests : List Request) : Logger :=
  requests.foldl (fun l request => (l.serve timestamp request).1) l

/-- The root is made, and what the loggers below it remember is still so. -/
structure UpToDate (l : Logger) : Prop where
  root : rootName ∈ l.made
  remembered : ∀ name level b, l.remembered.lookup (name, level) = some b → IsBelowRoot name →
    b = decide (0 < level ∧ l.threshold ≤ level)

/-- What follows from logging: the settings are the same, and nothing is remembered that is not
so. -/
structure Continues (l l' : Logger) : Prop where
  settings : l'.toSettings = l.toSettings
  upToDate : l.UpToDate → l'.UpToDate

variable {l l' : Logger} {levelText formatText : Option String} {level : Int} {format : Format}
  {timestamp name : String} {r : Record} {request : Request} {made : List String}

theorem run_bind_of_ok {α β : Type} {x : ExceptT Error (StateM Logger) α} {a : α}
    (f : α → ExceptT Error (StateM Logger) β) (h : x.run.run l = (.ok a, l')) :
    (x >>= f).run.run l = (f a).run.run l' := by
  rw [ExceptT.run_bind, StateT.run_bind, h]
  rfl

theorem run_removeSinks (sinks : List Format) (l : Logger) :
    (forIn sinks PUnit.unit fun sink _ => (do
      modify (·.removeSink sink)
      pure (ForInStep.yield PUnit.unit) : ExceptT Error (StateM Logger) _)).run.run l =
      (.ok PUnit.unit, sinks.foldl removeSink l) := by
  induction sinks generalizing l with
  | nil => rfl
  | cons sink rest ih =>
    rw [List.forIn_cons]
    exact ih _

theorem foldl_removeSink (sinks : List Format) (l : Logger) (h : l.sinks = sinks) :
    sinks.foldl removeSink l = { l with sinks := [] } := by
  induction sinks generalizing l with
  | nil => rw [List.foldl_nil, ← h]
  | cons sink rest ih =>
    have hrest : (l.removeSink sink).sinks = rest := by
      rw [removeSink, h, List.erase_cons_head]
    rw [List.foldl_cons, ih _ hrest, removeSink]

theorem settings?_eq_none_iff :
    settings? levelText formatText = none ↔
      levelOfName? (levelText.getD "INFO") = none ∨
        Format.ofName? (formatText.getD "structured") = none := by
  rw [settings?]
  cases levelOfName? (levelText.getD "INFO") <;>
    cases Format.ofName? (formatText.getD "structured") <;> simp

theorem reconfigure_of_settings (h : settings? levelText formatText = some (level, format)) :
    l.reconfigure levelText formatText =
      (.ok (), { Settings.ofNames (some (level, format)) with
        made := (l.ask rootName).made, remembered := [] }) := by
  rw [settings?] at h
  split at h
  · next hlevel hformat =>
    cases h
    have hloop := run_removeSinks (l.ask rootName).sinks (l.ask rootName)
    rw [foldl_removeSink _ _ rfl] at hloop
    rw [reconfigure, configure]
    simp only [hlevel, hformat]
    refine (run_bind_of_ok _ (x := modify (·.ask rootName)) rfl).trans ?_
    exact (run_bind_of_ok _ (x := get) rfl).trans (run_bind_of_ok _ hloop)
  · cases h

theorem reconfigure_of_unknown (h : settings? levelText formatText = none) :
    ∃ e, l.reconfigure levelText formatText = (.error e, l) := by
  rw [settings?] at h
  rw [reconfigure, configure]
  cases hlevel : levelOfName? (levelText.getD "INFO") with
  | none => exact ⟨_, rfl⟩
  | some level =>
    cases hformat : Format.ofName? (formatText.getD "structured") with
    | none => exact ⟨_, rfl⟩
    | some format => simp [hlevel, hformat] at h

theorem above_rootName (made : List String) : above made rootName.toList.reverse = [] := rfl

theorem above_cases (made : List String) (s : List Char) :
    (∃ others, above made s = others ++ [rootName] ∧ rootName ∉ others) ∨
      rootName ∉ above made s := by
  induction s using above.induct made with
  | case1 d rest name hmade ih =>
    have habove : above made ('.' :: d :: rest) = name :: above made (d :: rest) := by
      rw [above, if_pos rfl]
      exact if_pos hmade
    rw [habove]
    by_cases hname : name = rootName
    · have hrest : d :: rest = rootName.toList.reverse := by
        rw [← hname, String.toList_ofList, List.reverse_reverse]
      rw [hrest, above_rootName, hname]
      exact .inl ⟨[], rfl, by simp⟩
    · rcases ih with ⟨others, heq, hothers⟩ | hnone
      · refine .inl ⟨name :: others, by rw [heq, List.cons_append], ?_⟩
        exact List.not_mem_cons_of_ne_of_not_mem (Ne.symm hname) hothers
      · exact .inr (List.not_mem_cons_of_ne_of_not_mem (Ne.symm hname) hnone)
  | case2 d rest name hmade ih =>
    have habove : above made ('.' :: d :: rest) = above made rest := by
      rw [above, if_pos rfl]
      exact if_neg hmade
    rwa [habove]
  | case3 c d rest hc ih => rwa [above, if_neg hc]
  | case4 s hs =>
    rw [above]
    · exact .inr (by simp)
    · exact hs

theorem lineage_cases (made : List String) (name : String) :
    (∃ others, lineage made name = others ++ [rootName] ∧ rootName ∉ others) ∨
      rootName ∉ lineage made name := by
  rw [lineage]
  by_cases hname : name = rootName
  · rw [hname, above_rootName]
    exact .inl ⟨[], rfl, by simp⟩
  · rcases above_cases made name.toList.reverse with ⟨others, heq, hothers⟩ | hnone
    · refine .inl ⟨name :: others, by rw [heq, List.cons_append], ?_⟩
      exact List.not_mem_cons_of_ne_of_not_mem (Ne.symm hname) hothers
    · exact .inr (List.not_mem_cons_of_ne_of_not_mem (Ne.symm hname) hnone)

theorem rootName_mem_above (hroot : rootName ∈ made) :
    ∀ cs : List Char, cs.getLast? ≠ some '.' →
      rootName ∈ above made (cs ++ '.' :: rootName.toList.reverse)
  | [], _ => by
    have hfound : made.contains rootName = true := List.contains_iff_mem.2 hroot
    have habove : above made ('.' :: rootName.toList.reverse) = [rootName] := if_pos hfound
    simp [habove]
  | [c], h => by
    have hc : c ≠ '.' := by simpa using h
    have habove : above made (c :: '.' :: rootName.toList.reverse) =
        above made ('.' :: rootName.toList.reverse) := if_neg hc
    rw [List.singleton_append, habove]
    exact rootName_mem_above hroot [] (by simp)
  | c :: d :: cs, h => by
    have htail : (d :: cs).getLast? ≠ some '.' := by simpa using h
    have hdeeper := rootName_mem_above hroot (d :: cs) htail
    rw [List.cons_append, List.cons_append, above]
    split
    · dsimp only
      split
      · exact List.mem_cons_of_mem _ hdeeper
      · refine rootName_mem_above hroot cs fun hlast => ?_
        cases cs with
        | nil => cases hlast
        | cons e cs => exact htail (by simpa using hlast)
    · exact hdeeper

theorem mem_lineage_of_isBelowRoot (hroot : rootName ∈ made) (h : IsBelowRoot name) :
    rootName ∈ lineage made name := by
  rcases h with rfl | ⟨rest, hname, hrest⟩
  · exact List.mem_cons_self
  · have hreverse : name.toList.reverse = rest.reverse ++ '.' :: rootName.toList.reverse := by
      simp [hname]
    rw [lineage, hreverse]
    exact List.mem_cons_of_mem name
      (rootName_mem_above hroot rest.reverse (by rwa [List.getLast?_reverse]))

theorem loggerName_cases (name? : Option String) :
    loggerName name? = rootName ∨
      ∃ rest, (loggerName name?).toList = rootName.toList ++ '.' :: rest := by
  unfold loggerName
  cases name? with
  | none => exact .inl rfl
  | some name =>
    dsimp only
    split
    · exact .inl rfl
    · split
      · next hprefix =>
        obtain ⟨rest, hrest⟩ := String.startsWith_string_iff.1 hprefix
        exact .inr ⟨rest, by simpa using hrest.symm⟩
      · exact .inr ⟨name.toList, by simp⟩

theorem isBelowRoot_of_not_skipsRoot {name? : Option String}
    (h : ¬ SkipsRoot (loggerName name?)) : IsBelowRoot (loggerName name?) := by
  refine (loggerName_cases name?).imp_right fun ⟨rest, hname⟩ => ⟨rest, hname, fun hdot => h ?_⟩
  obtain ⟨rest, rfl⟩ : ∃ more, rest = '.' :: more := by
    cases rest with
    | nil => cases hdot
    | cons c more => exact ⟨more, by simpa using hdot⟩
  exact ⟨rest, by simp [hname]⟩

theorem map_settings {names : List String} (settings : Settings) (h : rootName ∉ names) :
    names.map (fun other => if other = rootName then settings else {}) =
      List.replicate names.length ({} : Settings) := by
  rw [List.eq_replicate_iff]
  refine ⟨List.length_map _, fun below hmem => ?_⟩
  obtain ⟨other, hother, rfl⟩ := List.mem_map.1 hmem
  exact if_neg (ne_of_mem_of_not_mem hother h)

theorem effectiveLevel_replicate (n : Nat) (above : List Settings) :
    effectiveLevel (List.replicate n ({} : Settings) ++ above) = effectiveLevel above := by
  induction n with
  | zero => rfl
  | succ n ih => simpa [List.replicate_succ, effectiveLevel] using ih

theorem reached_replicate (n : Nat) (above : List Settings) :
    reached (List.replicate n ({} : Settings) ++ above) = reached above := by
  induction n with
  | zero => rfl
  | succ n ih => simpa [List.replicate_succ, reached] using ih

theorem exists_chain_eq (l : Logger) (h : rootName ∈ lineage l.made name) :
    ∃ n, l.chain name = List.replicate n ({} : Settings) ++ [l.toSettings] := by
  obtain ⟨others, heq, hothers⟩ := (lineage_cases l.made name).resolve_right (· h)
  refine ⟨others.length, ?_⟩
  rw [chain, heq, List.map_append, map_settings _ hothers, List.map_singleton, if_pos rfl]

/-- A logger hands its records on to the root if that is above it, and to no sink otherwise. -/
theorem reached_chain (l : Logger) (name : String) :
    reached (l.chain name) = if rootName ∈ lineage l.made name then l.sinks else [] := by
  split
  · next h =>
    obtain ⟨n, hn⟩ := l.exists_chain_eq h
    rw [hn, reached_replicate, reached, reached, ite_self, List.append_nil]
  · next h =>
    have hnone := reached_replicate (lineage l.made name).length []
    rwa [List.append_nil, ← map_settings l.toSettings h] at hnone

theorem enables_of_isBelowRoot (h : l.UpToDate) (hname : IsBelowRoot name) (level : Int) :
    l.enables name level = decide (0 < level ∧ l.threshold ≤ level) := by
  rw [enables]
  cases hlookup : l.remembered.lookup (name, level) with
  | some b => exact h.remembered name level b hlookup hname
  | none =>
    obtain ⟨n, hn⟩ := l.exists_chain_eq (mem_lineage_of_isBelowRoot h.root hname)
    rw [Option.getD_none, hn, effectiveLevel_replicate, effectiveLevel, effectiveLevel,
      Bool.decide_and]
    rfl

theorem Continues.refl (l : Logger) : Continues l l :=
  ⟨rfl, id⟩

theorem Continues.trans {l₁ l₂ l₃ : Logger} (h : Continues l₁ l₂) (h' : Continues l₂ l₃) :
    Continues l₁ l₃ :=
  ⟨h'.settings.trans h.settings, h'.upToDate ∘ h.upToDate⟩

theorem continues_ask (l : Logger) (name : String) : Continues l (l.ask name) := by
  rw [ask]
  split
  · exact .refl l
  · exact ⟨rfl, fun h => ⟨List.mem_cons_of_mem name h.root, h.remembered⟩⟩

theorem continues_remember (l : Logger) (name : String) (level : Int) :
    Continues l (l.remember name level) := by
  refine ⟨rfl, fun h => ⟨h.root, fun other level' b hlookup hother => ?_⟩⟩
  rw [remember, List.lookup_cons] at hlookup
  split at hlookup
  · next heq =>
    obtain ⟨rfl, rfl⟩ := Prod.mk.inj (eq_of_beq heq)
    cases hlookup
    exact enables_of_isBelowRoot h hother level'
  · exact h.remembered other level' b hlookup hother

/-- A logger gives the same answer again. -/
theorem enables_remember (l : Logger) (name : String) (level : Int) :
    (l.remember name level).enables name level = l.enables name level := by
  rw [enables, remember, List.lookup_cons_self, Option.getD_some]

theorem writeContextual_eq (l : Logger) (timestamp : String) (r : Record) :
    (l.writeContextual timestamp r).2 = (l.write timestamp r).2 := by
  rw [writeContextual]
  split
  · next h =>
    rw [write, write, enables_remember, if_pos h, if_pos h]
    rfl
  · next h => rw [write, if_neg h]

theorem made_writeContextual (l : Logger) (timestamp : String) (r : Record) :
    (l.writeContextual timestamp r).1.made = l.made := by
  rw [writeContextual]
  split <;> rfl

theorem continues_writeContextual (l : Logger) (timestamp : String) (r : Record) :
    Continues l (l.writeContextual timestamp r).1 := by
  have hasked := l.continues_remember r.logger r.level
  rw [writeContextual]
  split
  · exact hasked.trans (continues_remember _ _ _)
  · exact hasked

theorem continues_writeAll (l : Logger) (timestamp : String) (records : List Record) :
    Continues l (l.writeAll timestamp records).1 := by
  induction records generalizing l with
  | nil => exact .refl l
  | cons r rest ih => exact (l.continues_writeContextual timestamp r).trans (ih _)

theorem serve_cases (l : Logger) (timestamp : String) (request : Request) :
    (request.settings? = none ∧ Continues l (l.serve timestamp request).1) ∨
      ∃ level format, request.settings? = some (level, format) ∧
        (l.serve timestamp request).1 =
          { Settings.ofNames (some (level, format)) with
            made := (l.ask rootName).made, remembered := [] } := by
  cases request with
  | configure levelText formatText =>
    rw [serve, Request.settings?]
    cases h : Log.settings? levelText formatText with
    | none =>
      obtain ⟨e, he⟩ := l.reconfigure_of_unknown h
      rw [he]
      exact .inl ⟨rfl, .refl l⟩
    | some names => exact .inr ⟨names.1, names.2, rfl, by rw [reconfigure_of_settings h]⟩
  | contextual logger level message context =>
    refine .inl ⟨rfl, ?_⟩
    have hasked := l.continues_ask (loggerName logger)
    rw [serve]
    cases Record.withContext level (loggerName logger) message context with
    | ok r => exact hasked.trans (continues_writeContextual _ _ _)
    | error e => exact hasked
  | plain logger level message =>
    exact .inl ⟨rfl, (l.continues_ask (loggerName logger)).trans (continues_remember _ _ _)⟩
  | split script base changes =>
    refine .inl ⟨rfl, ?_⟩
    have hasked := l.continues_ask Splitting.logName
    rw [serve]
    cases splitWith "split_sql_script()" script base changes with
    | ok splitting => exact hasked.trans (continues_writeAll _ _ _)
    | error e => exact hasked

theorem upToDate_serve (h : l.UpToDate) (timestamp : String) (request : Request) :
    (l.serve timestamp request).1.UpToDate := by
  rcases l.serve_cases timestamp request with ⟨-, hcontinues⟩ | ⟨level, format, -, heq⟩
  · exact hcontinues.upToDate h
  · rw [heq]
    exact ⟨((l.continues_ask rootName).upToDate h).root, by simp⟩

theorem toSettings_serve {names : Option (Int × Format)} (h : l.toSettings = .ofNames names)
    (timestamp : String) (request : Request) :
    (l.serve timestamp request).1.toSettings = .ofNames (request.settings?.or names) := by
  rcases l.serve_cases timestamp request with ⟨hnone, hcontinues⟩ | ⟨level, format, hsome, heq⟩
  · rw [hcontinues.settings, h, hnone, Option.none_or]
  · rw [heq, hsome, Option.some_or]

/-- A change of configuration fails exactly for an unknown name, and then changes nothing. -/
theorem serve_configure (l : Logger) (timestamp : String) (levelText formatText : Option String) :
    ((levelOfName? (levelText.getD "INFO") = none ∨
        Format.ofName? (formatText.getD "structured") = none) ↔
      ∃ e, (l.serve timestamp (.configure levelText formatText)).2 = .error e) ∧
    ((∃ e, (l.serve timestamp (.configure levelText formatText)).2 = .error e) →
      (l.serve timestamp (.configure levelText formatText)).1 = l) := by
  rw [← settings?_eq_none_iff, serve]
  cases hnames : settings? levelText formatText with
  | none =>
    obtain ⟨e, he⟩ := l.reconfigure_of_unknown hnames
    rw [he]
    exact ⟨⟨fun _ => ⟨e, rfl⟩, fun _ => rfl⟩, fun _ => rfl⟩
  | some names =>
    have hok (e : Error) : (Except.ok () : Except Error Unit).map (fun _ => ([] : List Char)) ≠
        .error e := by simp [Except.map]
    rw [reconfigure_of_settings hnames]
    refine ⟨⟨fun h => ?_, fun ⟨e, he⟩ => absurd he (hok e)⟩, fun ⟨e, he⟩ => absurd he (hok e)⟩
    cases h

theorem settings_of_eq {names : Option (Int × Format)} : l.toSettings = .ofNames names →
    match names with
    | none => l.sinks = [] ∧ l.level = 0 ∧ l.propagates = true
    | some (level, format) => l.sinks = [format] ∧ l.level = level ∧ l.propagates = false := by
  intro h
  rw [h]
  cases names with
  | none => exact ⟨rfl, rfl, rfl⟩
  | some names => exact ⟨rfl, rfl, rfl⟩

theorem lastSettings?_concat (done : List Request) (request : Request) :
    lastSettings? (done ++ [request]) = request.settings?.or (lastSettings? done) := by
  rw [lastSettings?, lastSettings?, List.reverse_append, List.reverse_singleton,
    List.findSome?_append, List.findSome?_singleton]

theorem after_concat (l : Logger) (timestamp : String) (done : List Request) (request : Request) :
    l.after timestamp (done ++ [request]) =
      ((l.after timestamp done).serve timestamp request).1 := by
  rw [after, List.foldl_append]
  rfl

/-- What a whole session does to the settings and to what is remembered. -/
theorem after_session (timestamp : String) (made : List String) (requests : List Request) :
    (after { made := rootName :: made } timestamp requests).toSettings =
        .ofNames (lastSettings? requests) ∧
      (after { made := rootName :: made } timestamp requests).UpToDate := by
  induction requests using List.reverseRecOn with
  | nil => exact ⟨rfl, List.mem_cons_self, fun _ _ _ h => nomatch h⟩
  | append_singleton done request ih =>
    obtain ⟨hsettings, huptodate⟩ := ih
    rw [after_concat, lastSettings?_concat]
    exact ⟨toSettings_serve hsettings timestamp request, upToDate_serve huptodate timestamp request⟩

theorem getElem?_serveAll (l : Logger) (timestamp : String) (done : List Request)
    (request : Request) (rest : List Request) :
    (l.serveAll timestamp (done ++ request :: rest))[done.length]? =
      some ((l.after timestamp done).serve timestamp request) := by
  induction done generalizing l with
  | nil => rfl
  | cons first done ih => exact ih _

theorem levelOfName?_nonneg {name : String} (h : levelOfName? name = some level) : 0 ≤ level := by
  have hlevels : ∀ e ∈ levelNames ++ levelAliases, 0 ≤ e.2 := by decide
  obtain ⟨front, back, heq, -⟩ := List.lookup_eq_some_iff.1 h
  refine hlevels (String.ofList (Text.upper name.toList), level) ?_
  rw [heq]
  simp

theorem le_of_lastSettings? {requests : List Request}
    (h : lastSettings? requests = some (level, format)) : 0 ≤ level := by
  obtain ⟨request, -, hrequest⟩ := List.exists_of_findSome?_eq_some h
  cases request with
  | configure levelText formatText =>
    rw [Request.settings?, settings?] at hrequest
    split at hrequest
    · next hlevel _ =>
      cases hrequest
      exact levelOfName?_nonneg hlevel
    · cases hrequest
  | contextual => cases hrequest
  | plain => cases hrequest
  | split => cases hrequest

theorem record?_cases (h : request.record? = some r) :
    (∃ name?, r.logger = loggerName name?) ∧ r.failure = none ∧
      (∀ name ∈ ["logger", "level", "message"], r.context.reverse.lookup name = none) ∧
      ∀ l : Logger, (l.serve timestamp request).2 = .ok ((l.ask r.logger).write timestamp r).2 ∧
        (l.serve timestamp request).1.made = (l.ask r.logger).made := by
  cases request with
  | configure => cases h
  | contextual logger level message context =>
    rw [Request.record?] at h
    split at h
    · next hnames =>
      cases h
      have hok : Record.withContext level (loggerName logger) message context =
          .ok { level, logger := loggerName logger, message, context } := by
        rw [Record.withContext]
        rcases rejectReserved_cases "log_with_context()" ["logger", "level", "message"]
          (context.map (·.1)) with ⟨hok, -⟩ | ⟨name, hname, hreserved, -⟩
        · rw [hok]
          rfl
        · obtain ⟨field, hfield, rfl⟩ := List.mem_map.1 hname
          exact absurd hreserved (hnames field hfield)
      refine ⟨⟨logger, rfl⟩, rfl, (eq_of_withContext hok).2, fun l => ?_⟩
      simp only [serve, hok]
      rw [writeContextual_eq]
      exact ⟨rfl, made_writeContextual _ _ _⟩
    · cases h
  | plain logger level message =>
    cases h
    exact ⟨⟨logger, rfl⟩, rfl, fun _ _ => rfl, fun l => ⟨rfl, rfl⟩⟩
  | split => cases h

theorem write_cases {line : List Char} (hsinks : l.sinks = [format])
    (hline : format.line timestamp r = .ok line) :
    (l.write timestamp r).2 =
      if l.enables r.logger r.level = true ∧ rootName ∈ lineage l.made r.logger
      then line ++ ['\n'] else [] := by
  rw [write, reached_chain, hsinks]
  by_cases henables : l.enables r.logger r.level = true <;>
    by_cases hroot : rootName ∈ lineage l.made r.logger <;>
      simp [henables, hroot, Format.write, hline]

theorem threshold_pos {settings : Settings} (h : 0 ≤ settings.level) : 0 < settings.threshold := by
  rw [Settings.threshold, applicationLevel]
  split <;> omega

/-- Below the root, a record's line is written exactly if the record reaches the threshold. -/
theorem write_eq_line_iff {line : List Char} (h : l.UpToDate) (hname : IsBelowRoot r.logger)
    (hlevel : 0 ≤ l.level) (hsinks : l.sinks = [format])
    (hline : format.line timestamp r = .ok line) :
    (l.write timestamp r).2 = line ++ ['\n'] ↔ l.threshold ≤ r.level := by
  have hpositive := threshold_pos hlevel
  have hroot := mem_lineage_of_isBelowRoot h.root hname
  have hends : (l.enables r.logger r.level = true ∧ rootName ∈ lineage l.made r.logger) ↔
      l.threshold ≤ r.level := by
    rw [enables_of_isBelowRoot h hname, decide_eq_true_iff, and_iff_left hroot]
    exact ⟨And.right, fun hle => ⟨Int.lt_of_lt_of_le hpositive hle, hle⟩⟩
  rw [write_cases hsinks hline, ite_eq_left_iff, hends]
  simp

end Logger

open Logger

/-- A session of the library's logger, from one that was never configured, whatever other loggers
were made before. After each request it has the one sink and the level of the last change of
configuration that went through, and it has kept its records from the loggers above since then. A
change goes through unless a name in it is unknown, and one that does not leaves the logger as it
was. A call that logs writes its record in one line, in the format of the last change, if there is
one and the record reaches its level, or that of the application where the level is not set, and
nothing otherwise. This holds unless two dots stand behind the root in the name of the record's
logger. Such a logger may have been made without the root above it, and then it writes nothing. -/
theorem serveAll_session (timestamp : String) (made : List String) (done : List Request)
    (request : Request) (rest : List Request) :
    ∃ l answer,
      (({ made := rootName :: made } : Logger).serveAll timestamp
          (done ++ request :: rest))[done.length]? = some (l, answer) ∧
      (match lastSettings? (done ++ [request]) with
        | none => l.sinks = [] ∧ l.level = 0 ∧ l.propagates = true
        | some (level, format) =>
          l.sinks = [format] ∧ l.level = level ∧ l.propagates = false) ∧
      (∀ levelText formatText, request = .configure levelText formatText →
        ((levelOfName? (levelText.getD "INFO") = none ∨
            Format.ofName? (formatText.getD "structured") = none) ↔ ∃ e, answer = .error e) ∧
          ((∃ e, answer = .error e) →
            l = ({ made := rootName :: made } : Logger).after timestamp done)) ∧
      ∀ r, request.record? = some r →
        (∀ field ∈ r.context, (Json.ofValue? field.2).isSome = true) →
          ∃ text, answer = .ok text ∧
            match lastSettings? done with
            | none => text = []
            | some (level, format) => ∃ line, IsLine timestamp r format line ∧
              (text = line ++ ['\n'] ∨ text = []) ∧
              (¬ SkipsRoot r.logger → (text = line ++ ['\n'] ↔
                (if level = 0 then applicationLevel else level) ≤ r.level)) ∧
              (rootName ∉ lineage l.made r.logger → text = []) := by
  have hserved := getElem?_serveAll { made := rootName :: made } timestamp done request rest
  have hafter := (after_session timestamp made (done ++ [request])).1
  obtain ⟨hbefore, huptodate⟩ := after_session timestamp made done
  rw [after_concat] at hafter
  generalize (({ made := rootName :: made } : Logger).after timestamp done) = l
    at hserved hafter hbefore huptodate ⊢
  generalize hserve : l.serve timestamp request = served at hserved hafter
  refine ⟨served.1, served.2, hserved, settings_of_eq hafter, ?_, fun r hr hcontext => ?_⟩
  · rintro levelText formatText rfl
    rw [← hserve]
    exact l.serve_configure timestamp levelText formatText
  · obtain ⟨⟨name?, hname⟩, hfailure, hfree, hanswer⟩ := record?_cases hr
    obtain ⟨htext, hmade⟩ := hanswer l
    have hasked := l.continues_ask r.logger
    have hsettings := hasked.settings.trans hbefore
    rw [← hserve, htext, hmade]
    refine ⟨_, rfl, ?_⟩
    cases hlast : lastSettings? done with
    | none =>
      rw [hlast] at hsettings
      rw [write, reached_chain, (settings_of_eq hsettings).1, ite_self]
      exact ite_self _
    | some names =>
      rw [hlast] at hsettings
      obtain ⟨hsinks, hlevel, -⟩ := settings_of_eq hsettings
      obtain ⟨line, hline, hisline⟩ := exists_isLine names.2 timestamp hfailure hfree hcontext
      refine ⟨line, hisline, ?_, fun hskips => ?_, fun hroot => ?_⟩
      · rw [write_cases hsinks hline]
        exact ite_eq_or_eq _ _ _
      · have hbelow : IsBelowRoot r.logger := by
          rw [hname] at hskips ⊢
          exact isBelowRoot_of_not_skipsRoot hskips
        rw [write_eq_line_iff (hasked.upToDate huptodate) hbelow
          (hlevel ▸ le_of_lastSettings? hlast) hsinks hline, Settings.threshold, hlevel]
      · rw [write_cases hsinks hline, if_neg fun h => hroot h.2]

theorem serveAll_session_of_warning :
    let warning := Request.contextual (some "a.b") 30 "careful" [("n", .int 1)]
    ∃ l answer,
      (({ made := [rootName] } : Logger).serveAll "T"
          [.configure (some "notset") (some "simple"), warning])[1]? = some (l, answer) ∧
      (l.sinks = [.simple] ∧ l.level = 0 ∧ l.propagates = false) ∧
      answer = .ok "WARNING sqlsplit.a.b: careful\n".toList := by
  intro warning
  obtain ⟨l, answer, hserved, hstate, -, hlog⟩ :=
    serveAll_session "T" [] [.configure (some "notset") (some "simple")] warning []
  have hdone : lastSettings? [.configure (some "notset") (some "simple")] = some (0, .simple) := by
    decide +kernel
  have hnow : lastSettings? ([.configure (some "notset") (some "simple")] ++ [warning]) =
      some (0, .simple) := by
    decide +kernel
  have hcontext : ∀ field ∈ [("n", Value.int 1)], (Json.ofValue? field.2).isSome = true := by
    simp [Json.ofValue?]
  have hdots : ¬ SkipsRoot (loggerName (some "a.b")) := by
    rw [SkipsRoot]
    decide +kernel
  obtain ⟨text, htext, hline⟩ := hlog _ rfl hcontext
  rw [hnow] at hstate
  rw [hdone] at hline
  obtain ⟨line, hisline, -, hends, -⟩ := hline
  have hwritten := (hends hdots).2 (by decide)
  cases hisline
  exact ⟨l, answer, hserved, hstate, by rw [htext, hwritten]; decide +kernel⟩

/-- The root is configured, and an error on a logger with two dots behind it has a line, but that is
not written. -/
theorem silent_behind_two_dots :
    let error := Request.plain (some ".a") 40 "x"
    let r : Record := { level := 40, logger := "sqlsplit..a", message := "x" }
    error.record? = some r ∧
      lastSettings? [.configure (some "DEBUG") (some "simple")] = some (10, .simple) ∧
      Format.simple.line "T" r = .ok "ERROR sqlsplit..a: x".toList ∧
      (({} : Logger).serveAll "T" [.configure (some "DEBUG") (some "simple"), error]).map
        (·.2.toOption) = [some [], some []] := by
  refine ⟨?_, ?_, ?_, ?_⟩
  · rfl
  · decide +kernel
  · decide +kernel
  · decide +kernel

end SqlScript.Log
