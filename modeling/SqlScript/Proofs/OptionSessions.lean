import SqlScript.Splitter
import Mathlib.Data.List.Induction

namespace SqlScript

namespace Options

/-- The value that some changes ask a flag to have. -/
def resulting (o : Options) (changes : Named) (flag : Flag) : Value :=
  (change? changes flag).getD (.bool (o.get flag))

/-- What is wrong with some changes: one of them uses the name of the call's own parameter, or else
they name something that is no flag, or else they ask a flag to have a value that is no truth value.
The first unknown name and the first such flag are reported. -/
inductive Fault (o : Options) (changes : Named) : Error → Prop
  | reserved (hname : "self" ∈ changes.map (·.1)) :
      Fault o changes (.repeatedArgument "SplitterConfig.replace()" "self")
  | unknown {front back : List String} {name : String} (hself : "self" ∉ changes.map (·.1))
      (hnames : changes.map (·.1) = front ++ name :: back)
      (hfront : ∀ other ∈ front, other ∈ Flag.names) (hname : name ∉ Flag.names) :
      Fault o changes (.unknownOption name)
  | wrongType {front back : List Flag} {flag : Flag}
      (hknown : ∀ name ∈ changes.map (·.1), name ∈ Flag.names)
      (hflags : Flag.all = front ++ flag :: back)
      (hfront : ∀ other ∈ front, ∃ b, o.resulting changes other = .bool b)
      (hflag : ∀ b, o.resulting changes flag ≠ .bool b) :
      Fault o changes (.optionType flag.name (o.resulting changes flag).typeName)

variable {o : Options} {changes : Named} {flag : Flag} {b : Bool} {e : Error}

theorem change?_cases (o : Options) (changes : Named) (flag : Flag) :
    (change? changes flag = none ∧ o.resulting changes flag = .bool (o.get flag)) ∨
      change? changes flag = some (o.resulting changes flag) := by
  rw [resulting]
  cases change? changes flag with
  | none => exact .inl ⟨rfl, rfl⟩
  | some v => exact .inr rfl

theorem setFrom_of_bool (h : o.resulting changes flag = .bool b) :
    setFrom changes o flag = .ok (o.set flag b) := by
  rcases o.change?_cases changes flag with ⟨hchange, hkept⟩ | hchange
  · obtain rfl : o.get flag = b := Value.bool.inj (hkept.symm.trans h)
    rw [setFrom, hchange, set_get]
  · rw [setFrom, hchange, h]

theorem setFrom_of_ne (h : ∀ b, o.resulting changes flag ≠ .bool b) :
    setFrom changes o flag =
      .error (.optionType flag.name (o.resulting changes flag).typeName) := by
  rcases o.change?_cases changes flag with ⟨-, hkept⟩ | hchange
  · exact absurd hkept (h _)
  · rw [setFrom, hchange]
    cases hv : o.resulting changes flag with
    | bool b => exact absurd hv (h b)
    | _ => rfl

theorem resulting_set (h : o.resulting changes flag = .bool b) (other : Flag) :
    (o.set flag b).resulting changes other = o.resulting changes other := by
  rcases o.change?_cases changes other with ⟨hchange, hkept⟩ | hchange
  · rw [resulting, hchange, Option.getD_none, get_set]
    split
    · next heq =>
      subst heq
      exact h.symm
    · exact hkept.symm
  · rw [resulting, hchange, Option.getD_some]

/-- Flags set in turn all get what the changes ask for, unless one is asked for no truth value. -/
theorem foldlM_setFrom (flags : List Flag) (o : Options) (changes : Named) :
    (∃ o', flags.foldlM (setFrom changes) o = .ok o' ∧
        (∀ flag ∈ flags, .bool (o'.get flag) = o.resulting changes flag) ∧
        ∀ flag ∉ flags, o'.get flag = o.get flag) ∨
      ∃ front flag back, flags = front ++ flag :: back ∧
        (∀ other ∈ front, ∃ b, o.resulting changes other = .bool b) ∧
        (∀ b, o.resulting changes flag ≠ .bool b) ∧
        flags.foldlM (setFrom changes) o =
          .error (.optionType flag.name (o.resulting changes flag).typeName) := by
  induction flags generalizing o with
  | nil => exact .inl ⟨o, rfl, by simp, fun flag _ => rfl⟩
  | cons first rest ih =>
    by_cases hfirst : ∃ b, o.resulting changes first = .bool b
    · obtain ⟨b, hb⟩ := hfirst
      have hstep : (first :: rest).foldlM (setFrom changes) o =
          rest.foldlM (setFrom changes) (o.set first b) := by
        rw [List.foldlM_cons, setFrom_of_bool hb]
        rfl
      rw [hstep]
      rcases ih (o.set first b) with ⟨o', ho', hnamed, hothers⟩ |
        ⟨front, flag, back, heq, hfront, hflag, herror⟩
      · refine .inl ⟨o', ho', fun flag hmem => ?_, fun flag hmem => ?_⟩
        · by_cases hrest : flag ∈ rest
          · rw [hnamed flag hrest, resulting_set hb]
          · obtain rfl := (List.mem_cons.1 hmem).resolve_right hrest
            rw [hothers flag hrest, get_set, if_pos rfl, hb]
        · rw [List.mem_cons, not_or] at hmem
          rw [hothers flag hmem.2, get_set, if_neg hmem.1]
      · simp only [resulting_set hb] at hfront hflag herror
        refine .inr ⟨first :: front, flag, back, by rw [heq, List.cons_append], ?_, hflag, herror⟩
        exact List.forall_mem_cons.2 ⟨⟨b, hb⟩, hfront⟩
    · rw [not_exists] at hfirst
      refine .inr ⟨[], first, rest, rfl, by simp, hfirst, ?_⟩
      rw [List.foldlM_cons, setFrom_of_ne hfirst]
      rfl

/-- Changes go through as a whole, or they have a fault, which is reported. -/
theorem replace_cases (o : Options) (changes : Named) :
    (∃ o', o.replace changes = .ok o' ∧ (∀ name ∈ changes.map (·.1), name ∈ Flag.names) ∧
        ∀ flag, .bool (o'.get flag) = o.resulting changes flag) ∨
      ∃ e, o.replace changes = .error e ∧ Fault o changes e := by
  rw [replace]
  rcases rejectReserved_cases "SplitterConfig.replace()" ["self"] (changes.map (·.1)) with
    ⟨hok, hself⟩ | ⟨name, hname, hself, herror⟩
  · rw [hok]
    cases hfind : (changes.map (·.1)).find? fun name => !Flag.names.contains name with
    | some name =>
      obtain ⟨hname, front, back, heq, hfront⟩ := List.find?_eq_some_iff_append.1 hfind
      refine .inr ⟨_, rfl, .unknown ?_ heq ?_ ?_⟩
      · exact fun hmem => hself _ hmem (by simp)
      · exact fun other hother => by simpa using hfront other hother
      · simpa using hname
    | none =>
      have hknown : ∀ name ∈ changes.map (·.1), name ∈ Flag.names :=
        fun name hname => by simpa using List.find?_eq_none.1 hfind name hname
      rcases foldlM_setFrom Flag.all o changes with ⟨o', ho', hnamed, -⟩ |
        ⟨front, flag, back, heq, hfront, hflag, herror⟩
      · exact .inl ⟨o', ho', hknown, fun flag => hnamed flag flag.mem_all⟩
      · exact .inr ⟨_, herror, .wrongType hknown heq hfront hflag⟩
  · obtain rfl := List.mem_singleton.1 hself
    rw [herror]
    exact .inr ⟨_, rfl, .reserved hname⟩

theorem Fault.unknown_or_wrongType (h : Fault o changes e) :
    (∃ name ∈ changes.map (·.1), name ∉ Flag.names) ∨
      ∃ flag, ∀ b, o.resulting changes flag ≠ .bool b := by
  cases h with
  | reserved hname => exact .inl ⟨"self", hname, by decide⟩
  | unknown _ hnames _ hname => exact .inl ⟨_, by simp [hnames], hname⟩
  | wrongType _ _ _ hflag => exact .inr ⟨_, hflag⟩

theorem exists_replace_eq_error_iff (o : Options) (changes : Named) :
    (∃ e, o.replace changes = .error e) ↔
      (∃ name ∈ changes.map (·.1), name ∉ Flag.names) ∨
        ∃ flag, ∀ b, o.resulting changes flag ≠ .bool b := by
  rcases o.replace_cases changes with ⟨o', ho', hknown, hresulting⟩ | ⟨e, herror, hfault⟩
  · rw [ho']
    constructor
    · rintro ⟨e, he⟩
      cases he
    · rintro (⟨name, hmem, hname⟩ | ⟨flag, hflag⟩)
      · exact absurd (hknown name hmem) hname
      · exact absurd (hresulting flag).symm (hflag _)
  · exact ⟨fun _ => hfault.unknown_or_wrongType, fun _ => ⟨e, herror⟩⟩

theorem fault_of_replace (h : o.replace changes = .error e) : Fault o changes e := by
  rcases o.replace_cases changes with ⟨o', ho', -, -⟩ | ⟨e', herror, hfault⟩
  · rw [h] at ho'
    cases ho'
  · rw [h] at herror
    cases herror
    exact hfault

end Options

/-- The truth value that a value is. -/
def Value.truth? : Value → Option Bool
  | .bool b => some b
  | _ => none

namespace Splitter

/-- The truth value that a request gives a flag, if it names the flag and has not failed. -/
def override? (flag : Flag) : Request × Except Error Answer → Option Bool
  | (.replace changes, .ok _) => (Options.change? changes flag).bind Value.truth?
  | (.configure options, .ok _) => some (options.get flag)
  | _ => none

/-- The requests of a session with their answers. -/
def history (s : Splitter) (requests : List Request) : List (Request × Except Error Answer) :=
  requests.zip (s.serveAll requests).2

/-- The truth value that the last request to do so gives a flag. -/
def lastOverride? (s : Splitter) (requests : List Request) (flag : Flag) : Option Bool :=
  (s.history requests).reverse.findSome? (override? flag)

variable {s : Splitter} {request : Request} {e : Error}

theorem serveAll_append (s : Splitter) (done rest : List Request) :
    s.serveAll (done ++ rest) =
      (((s.serveAll done).1.serveAll rest).1,
        (s.serveAll done).2 ++ ((s.serveAll done).1.serveAll rest).2) := by
  induction done generalizing s with
  | nil => rfl
  | cons first done ih => rw [List.cons_append, serveAll, ih]; rfl

theorem length_serveAll (s : Splitter) (requests : List Request) :
    (s.serveAll requests).2.length = requests.length := by
  induction requests generalizing s with
  | nil => rfl
  | cons first rest ih => exact congrArg (· + 1) (ih _)

theorem serveAll_concat (s : Splitter) (done : List Request) (request : Request) :
    (s.serveAll (done ++ [request])).1 = ((s.serveAll done).1.serve request).1 := by
  rw [serveAll_append]
  rfl

theorem getElem?_serveAll (s : Splitter) (done : List Request) (request : Request)
    (rest : List Request) :
    (s.serveAll (done ++ request :: rest)).2[done.length]? =
      some ((s.serveAll done).1.serve request).2 := by
  rw [serveAll_append, ← length_serveAll s done, List.getElem?_append_right (Nat.le_refl _),
    Nat.sub_self]
  rfl

theorem history_concat (s : Splitter) (done : List Request) (request : Request) :
    s.history (done ++ [request]) =
      s.history done ++ [(request, ((s.serveAll done).1.serve request).2)] := by
  rw [history, serveAll_append, List.zip_append (length_serveAll s done).symm]
  rfl

theorem lastOverride?_concat (s : Splitter) (done : List Request) (request : Request)
    (flag : Flag) :
    s.lastOverride? (done ++ [request]) flag =
      (override? flag (request, ((s.serveAll done).1.serve request).2)).or
        (s.lastOverride? done flag) := by
  rw [lastOverride?, lastOverride?, history_concat, List.reverse_append, List.reverse_singleton,
    List.findSome?_append, List.findSome?_singleton]

theorem serve_replace_eq_error_iff {changes : Named} :
    (s.serve (.replace changes)).2 = .error e ↔ s.options.replace changes = .error e := by
  rw [serve]
  cases s.options.replace changes <;> simp

theorem serve_of_error (h : (s.serve request).2 = .error e) : (s.serve request).1 = s := by
  cases request with
  | split script => rfl
  | configure options => cases h
  | replace changes => rw [serve, serve_replace_eq_error_iff.1 h]

theorem get_serve (s : Splitter) (request : Request) (flag : Flag) :
    (s.serve request).1.options.get flag =
      (override? flag (request, (s.serve request).2)).getD (s.options.get flag) := by
  cases request with
  | split script => rfl
  | configure options => rfl
  | replace changes =>
    rw [serve]
    rcases s.options.replace_cases changes with ⟨options, hok, -, hresulting⟩ | ⟨e, herror, -⟩
    · rw [hok, override?]
      rcases s.options.change?_cases changes flag with ⟨hchange, hkept⟩ | hchange
      · rw [hchange]
        exact Value.bool.inj ((hresulting flag).trans hkept)
      · rw [hchange, ← hresulting flag]
        rfl
    · rw [herror]
      rfl

/-- What a whole session does to a flag. -/
theorem get_serveAll (s : Splitter) (requests : List Request) (flag : Flag) :
    (s.serveAll requests).1.options.get flag =
      (s.lastOverride? requests flag).getD (s.options.get flag) := by
  induction requests using List.reverseRecOn with
  | nil => rfl
  | append_singleton done request ih =>
    rw [serveAll_concat, get_serve, ih, lastOverride?_concat]
    cases override? flag (request, ((s.serveAll done).1.serve request).2) <;> rfl

theorem resulting_of_make {base : Option Options} {changes : Named}
    (h : make base changes = .ok s) (flag : Flag) :
    .bool (s.options.get flag) = (base.getD {}).resulting changes flag := by
  rw [make] at h
  obtain ⟨-, h⟩ := of_rejectReserved_bind h
  rcases (base.getD {}).replace_cases changes with ⟨options, hoptions, -, hresulting⟩ |
    ⟨e, herror, -⟩
  · rw [hoptions] at h
    cases h
    exact hresulting flag
  · rw [herror] at h
    cases h

end Splitter

open Splitter

/-- A session of a splitter that is made from options and changes of them. Each option has at first
the value that these give it, and then that of the last request that went through and names it. A
request that fails leaves the options as they are. Changes of the options fail just if they name
something that is no option or ask one to have a value that is no truth value, and what is reported
is the name of the call's own parameter if they use it, or else the first unknown name, or else the
first option, in the order of the options, with a wrong value. The split of a text succeeds and is
that of a new splitter with the current options; anything else is refused. -/
theorem options_of_session {base : Option Options} {given : Named} {s : Splitter}
    (hmake : Splitter.make base given = .ok s) (done : List Request) (request : Request)
    (rest : List Request) :
    ∃ (current : Options) (answer : Except Error Answer),
      (s.serveAll done).1.options = current ∧
      (s.serveAll (done ++ request :: rest)).2[done.length]? = some answer ∧
      (∀ flag, .bool (s.options.get flag) = (base.getD {}).resulting given flag) ∧
      (∀ flag, current.get flag = (s.lastOverride? done flag).getD (s.options.get flag)) ∧
      ((∃ e, answer = .error e) → (s.serveAll (done ++ [request])).1.options = current) ∧
      (∀ changes, request = .replace changes →
        ((∃ e, answer = .error e) ↔
          (∃ name ∈ changes.map (·.1), name ∉ Flag.names) ∨
            ∃ flag, ∀ b, current.resulting changes flag ≠ .bool b) ∧
        ∀ e, answer = .error e → current.Fault changes e) ∧
      ∀ script, request = .split script →
        (s.serveAll (done ++ [request])).1.options = current ∧
        match script with
        | .text _ => ∃ splitting, answer = .ok (.splitting splitting) ∧
          (Splitter.make (some current) []).bind (·.split script) = .ok splitting
        | v => answer = .error (.notScript v.typeName) := by
  refine ⟨_, _, rfl, getElem?_serveAll s done request rest, resulting_of_make hmake,
    get_serveAll s done, ?_, ?_, ?_⟩
  · rintro ⟨e, he⟩
    rw [serveAll_concat, serve_of_error he]
  · rintro changes rfl
    simp only [serve_replace_eq_error_iff]
    exact ⟨Options.exists_replace_eq_error_iff _ changes, fun e => Options.fault_of_replace⟩
  · rintro script rfl
    rw [serveAll_concat]
    refine ⟨rfl, ?_⟩
    cases script with
    | text text => exact ⟨_, rfl, rfl⟩
    | _ => rfl

theorem options_of_session_of_failures :
    let done : List Request :=
      [.replace [("keep_terminator", .bool true)],
        .replace [("keep_extra_spaces", .bool true), ("keep_comments", .int 0)], .split .null]
    let changes : Named := [("keep_comments", .null), ("comments", .bool true)]
    ∃ (s : Splitter) (current : Options) (answer : Except Error Answer),
      Splitter.make none [("keep_comments", .bool true)] = .ok s ∧
      (s.serveAll (done ++ [.replace changes])).2[3]? = some answer ∧
      (∀ flag, current.get flag = (flag == .keepTerminator || flag == .keepComments)) ∧
      ∃ e, answer = .error e ∧ current.Fault changes e ∧
        (s.serveAll (done ++ [.replace changes])).1.options = current := by
  intro done changes
  have hmake : Splitter.make none [("keep_comments", .bool true)] =
      .ok ⟨{ keepComments := true }⟩ := rfl
  obtain ⟨current, answer, -, hanswer, -, hflags, hfailed, hreplace, -⟩ :=
    options_of_session hmake done (.replace changes) []
  obtain ⟨hfails, hfault⟩ := hreplace changes rfl
  obtain ⟨e, he⟩ := hfails.2 (.inl ⟨"comments", by simp [changes], by decide⟩)
  refine ⟨_, current, answer, hmake, hanswer, fun flag => ?_, e, he, hfault e he, hfailed ⟨e, he⟩⟩
  rw [hflags]
  cases flag <;> decide +kernel

/-- The name of the call's own parameter is reported before an unknown name that stands in front of
it. -/
theorem replace_reports_self :
    let changes : Named := [("comments", .bool true), ("self", .bool true)]
    (changes.map (·.1)).find? (!Flag.names.contains ·) = some "comments" ∧
      ((⟨{}⟩ : Splitter).serve (.replace changes)).2 =
        .error (.repeatedArgument "SplitterConfig.replace()" "self") ∧
      ((⟨{}⟩ : Splitter).serve (.replace changes)).2 ≠ .error (.unknownOption "comments") := by
  intro changes
  have hanswer : ((⟨{}⟩ : Splitter).serve (.replace changes)).2 =
      .error (.repeatedArgument "SplitterConfig.replace()" "self") := rfl
  refine ⟨by decide +kernel, hanswer, ?_⟩
  rw [hanswer]
  simp

end SqlScript
