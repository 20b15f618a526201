import Rampart.Proofs.Origins

/-!
# The place of the body

A body is read for arguments when both the body and a header that declares a form are known. Every
header and the body give occasion to read it, and whether a form is declared depends on the headers so
far. Yet the arguments do not depend on where the body came among the headers.

The invariant of the steps, `Gathered`, says what the request is at each moment: the body has been
read exactly if it is known and the headers so far declare a form. A first content type stays the
first one when more headers follow, so a body is never read too early, and never twice.
-/

namespace Rampart

/-! ## Headers -/

/-- A content type is that of a form. -/
def isFormType (contentType : String) : Bool :=
  "application/x-www-form-urlencoded".toList.isPrefixOf
    ((Text.trimLeft contentType.toList).map Char.toLower)

/-- The first content type among some headers is that of a form. -/
def declareForm (headers : List (String × String)) : Bool :=
  (headers.find? fun h => Text.sameText h.1 "content-type").any fun h => isFormType h.2

/-- What declares a form goes on to declare it when more headers follow. -/
theorem declareForm_append {headers : List (String × String)} (h : declareForm headers = true)
    (more : List (String × String)) : declareForm (headers ++ more) = true := by
  unfold declareForm at h ⊢
  rw [List.find?_append]
  cases hfirst : headers.find? fun h => Text.sameText h.1 "content-type" with
  | none =>
      rw [hfirst] at h
      cases h
  | some first =>
      rw [hfirst] at h
      exact h

/-- A header by its name and its value, as a detail of a request. -/
def Detail.ofHeader (h : String × String) : Detail := .header h.1 h.2

namespace Request

theorem declaresForm_eq (r : Request) : r.declaresForm = declareForm r.headers.pairs := by
  unfold declaresForm declareForm AnchoredSet.pairs AnchoredSet.first?
  rw [List.find?_map]
  change _ = Option.any _ ((r.headers.values.find? fun v => Text.sameText v.key "content-type").map _)
  cases r.headers.values.find? fun v => Text.sameText v.key "content-type" with
  | none => rfl
  | some v => rfl

/-! ## What is known of a request -/

/-- The arguments of a form. -/
def formValues (form : String) : List Value := (Pair.ofText '&' form).map (Pair.value "ARGS" 0)

/-- The arguments that a body adds: those of a form if the headers declare one. -/
def bodyValues (headers : List (String × String)) (body : Option String) : List Value :=
  if declareForm headers then body.elim [] formValues else []

theorem bodyValues_none (headers : List (String × String)) : bodyValues headers none = [] := ite_self _

theorem bodyValues_of_form {headers : List (String × String)} (h : declareForm headers = true)
    (form : String) : bodyValues headers (some form) = formValues form := if_pos h

theorem bodyValues_of_not_form {headers : List (String × String)} (h : declareForm headers = false)
    (body : Option String) : bodyValues headers body = [] := if_neg (Bool.eq_false_iff.1 h)

/-- The headers, the body and the arguments that are known of a request, which has no other arguments
than some that were there before and those that its body adds. -/
structure Gathered (r : Request) (before : List Value) (headers : List (String × String))
    (body : Option String) : Prop where
  headers_eq : r.headers.pairs = headers
  body_eq : r.body.text? = body
  name_eq : r.args.name = "ARGS"
  /-- The body has been read exactly if it is known and declared to be a form. -/
  read_eq : r.bodyRead = (body.isSome && declareForm headers)
  args_eq : r.args.values = before ++ bodyValues headers body

namespace Gathered

variable {r : Request} {before : List Value} {headers : List (String × String)} {body : Option String}

/-- A request that has no header and no body yet. -/
theorem withQuery_new (id : String) (time : Int) (q : String) :
    ((new id time).withQuery q).Gathered (formValues q) [] none where
  headers_eq := rfl
  body_eq := rfl
  name_eq := AnchoredSet.name_pushPairs _ _ _
  read_eq := rfl
  args_eq := by
    rw [withQuery, AnchoredSet.values_pushPairs]
    exact (List.append_nil _).symm

/-- The body is read when it is due, from a request whose body has not been read. -/
theorem readBody (hheaders : r.headers.pairs = headers) (hbody : r.body.text? = body)
    (hname : r.args.name = "ARGS") (hunread : r.bodyRead = false) (hargs : r.args.values = before) :
    r.readBody.Gathered before headers body := by
  unfold Request.readBody
  rw [hunread, if_neg Bool.false_ne_true, hbody, declaresForm_eq, hheaders]
  cases body with
  | none =>
      refine ⟨hheaders, hbody, hname, hunread, ?_⟩
      rw [bodyValues_none, List.append_nil]
      exact hargs
  | some form =>
      dsimp only
      cases hform : declareForm headers with
      | false =>
          rw [if_neg Bool.false_ne_true]
          refine ⟨hheaders, hbody, hname, ?_, ?_⟩
          · rw [hform]
            exact hunread
          · rw [bodyValues_of_not_form hform, List.append_nil]
            exact hargs
      | true =>
          rw [if_pos rfl]
          refine ⟨hheaders, hbody, ?_, ?_, ?_⟩
          · exact (AnchoredSet.name_pushPairs _ _ _).trans hname
          · rw [hform]
            rfl
          · rw [bodyValues_of_form hform, ← hargs]
            refine (AnchoredSet.values_pushPairs _ _ _).trans ?_
            rw [hname]
            rfl

/-- A body that has been read is not read again. -/
theorem readBody_of_read (h : r.bodyRead = true) : r.readBody = r := by
  rw [Request.readBody, if_pos h]

theorem withHeader (h : r.Gathered before headers body) (name value : String) :
    (r.withHeader name value).Gathered before (headers ++ [(name, value)]) body := by
  have hpairs : (r.headers.pushWhole name value (r.headerBytes + Text.size name + 2)).pairs =
      headers ++ [(name, value)] := by
    rw [AnchoredSet.pairs_pushWhole, h.headers_eq]
  unfold Request.withHeader
  dsimp only
  cases hread : r.bodyRead with
  | false =>
      -- what the body adds is due with this header at the earliest
      refine readBody hpairs h.body_eq h.name_eq rfl ?_
      have hdue := h.read_eq.symm.trans hread
      rw [h.args_eq]
      cases body with
      | none => rw [bodyValues_none, List.append_nil]
      | some form => rw [bodyValues_of_not_form hdue, List.append_nil]
  | true =>
      obtain ⟨hsome, hform⟩ := Bool.and_eq_true_iff.1 (h.read_eq.symm.trans hread)
      have hstill := declareForm_append hform [(name, value)]
      obtain ⟨form, rfl⟩ := Option.isSome_iff_exists.1 hsome
      rw [readBody_of_read rfl]
      refine ⟨hpairs, h.body_eq, h.name_eq, ?_, ?_⟩
      · rw [hstill]
        rfl
      · rw [bodyValues_of_form hstill, ← bodyValues_of_form hform]
        exact h.args_eq

theorem withBody (h : r.Gathered before headers none) (form : String) :
    (r.withBody form).Gathered before headers (some form) := by
  refine readBody h.headers_eq rfl h.name_eq rfl ?_
  have hargs := h.args_eq
  rw [bodyValues_none, List.append_nil] at hargs
  exact hargs

/-- **Headers, one after the other**, keep a request gathered. -/
theorem withHeaders (h : r.Gathered before headers body) (more : List (String × String)) :
    (r.withDetails (more.map Detail.ofHeader)).Gathered before (headers ++ more) body := by
  induction more generalizing r headers with
  | nil =>
      rw [List.append_nil]
      exact h
  | cons first more ih =>
      have hrest := ih (h.withHeader first.1 first.2)
      rw [List.append_assoc] at hrest
      exact hrest

end Gathered

/-- The details of a form post: its query string, then its headers in their order, with the body in
front of the header that has the number `place`, or behind them all. -/
def formDetails (q : String) (headers : List (String × String)) (place : Nat) (b : String) :
    List Detail :=
  .query q :: ((headers.take place).map Detail.ofHeader ++
    .body b :: (headers.drop place).map Detail.ofHeader)

/-- **The place of the body among the headers does not matter.** Wherever it stands, the arguments
are those of the query string, followed by those of the body, each once, if the first content type of
all headers is that of a form, and by nothing otherwise. -/
theorem arguments_ignore_body_place (id : String) (time : Int) (q : String)
    (headers : List (String × String)) (place : Nat) (b : String) :
    (ofDetails id time (formDetails q headers place b)).args.values =
      formValues q ++ if declareForm headers then formValues b else [] := by
  have hbefore := (Gathered.withQuery_new id time q).withHeaders (headers.take place)
  have hall := (hbefore.withBody b).withHeaders (headers.drop place)
  rw [List.nil_append, List.take_append_drop] at hall
  have hsteps : ofDetails id time (formDetails q headers place b) =
      ((((new id time).withQuery q).withDetails ((headers.take place).map Detail.ofHeader)).withBody
        b).withDetails ((headers.drop place).map Detail.ofHeader) := by
    unfold ofDetails formDetails withDetails
    rw [List.foldl_cons, List.foldl_append, List.foldl_cons]
    rfl
  rw [hsteps, hall.args_eq]
  rfl

/-- A second content type does not count, wherever the body stands. -/
example :
    let headers := [("Host", "a"), ("content-TYPE", " Application/X-WWW-Form-Urlencoded; q=1"),
      ("Content-Type", "text/plain")]
    (List.range 4).map (fun place =>
        (ofDetails "r" 0 (formDetails "a=1" headers place "b=2")).args.values.map (·.key)) =
      List.replicate 4 ["a", "b"] := by
  decide +kernel

end Request

end Rampart
