import ReversePolish.Proofs.Pending
import ReversePolish.Service

/-!
# Answers of the service

What the service answers when a body is posted to one of its routes. Nothing is used of how requests
find their way but that the path of a route leads to it.

- `respond_route`, `respond_posting`: a route answers what is asked of it;
- `onExpression_of_lookup`, `answer_evaluateBatch`: a body that gives an expression within the
  greatest length, or a list of expressions;
- `Asks`: the requests that ask for what the service is there for, of any length;
- `status_of_asks`: such a request has a good answer, or an expression in it is at fault.
-/

namespace ReversePolish.Service

/-- The field of the given name in the body of an answer. -/
def Response.field? (response : Response) (name : String) : Option Datum :=
  response.body.bind (·.field? name)

/-- The request that posts a record to a route. -/
def posting (route : Route) (fields : List (String × Datum)) : Request where
  method := "POST"
  address := route.path
  body := some (.record fields)

variable {settings : Settings}

/-- The path of a route leads to it. -/
theorem ofPath?_path (route : Route) :
    Address.pathOf route.path = .ok route.path.toList ∧
      Route.ofPath? route.path.toList = some route := by
  cases route
  all_goals
    refine ⟨?_, by decide⟩
    rfl

/-- What holds of both refusals and of all answers of a command holds of the answer on a single
expression. -/
theorem onExpression_induction {P : Response → Prop} {body : Option Datum}
    {command : Settings → String → Response} (form : ∀ complaints, P (badBody body complaints))
    (length : P (badLength settings)) (kept : ∀ expression, P (command settings expression)) :
    P (onExpression settings body command) := by
  rw [onExpression]
  split
  · exact form _
  · split
    · exact length
    · exact kept _

theorem location_badBody (body : Option Datum) (complaints : List Complaint) :
    (badBody body complaints).location = none := by
  rw [badBody]
  split <;> rfl

theorem location_onExpression (body : Option Datum) {command : Settings → String → Response}
    (kept : ∀ expression, (command settings expression).location = none) :
    (onExpression settings body command).location = none :=
  onExpression_induction (P := (·.location = none)) (location_badBody body) rfl kept

/-- A route answers itself: it redirects to no other one. -/
theorem location_answer (body : Option Datum) (route : Route) :
    (answer settings body route).location = none := by
  cases route with
  | tokenize =>
    refine location_onExpression body fun expression => ?_
    rw [tokenize]
    split <;> rfl
  | convert => exact location_onExpression body fun expression => rfl
  | evaluate =>
    refine location_onExpression body fun expression => ?_
    rw [evaluate]
    split <;> rfl
  | evaluateBatch =>
    rw [answer]
    split
    · exact location_badBody body _
    · rw [evaluateBatch]
      split <;> rfl
  | health => rfl

/-- What is asked of a route by its method is answered by it. -/
theorem respond_route {route : Route} {method : String}
    (isMethod : Text.upperCase method = route.method) (body : Option Datum) :
    respond settings { method, address := route.path, body } =
      .ok (answer settings body route) := by
  obtain ⟨path, found⟩ := ofPath?_path route
  have routed : respondAt settings route.method route.path.toList body =
      answer settings body route := by
    rw [respondAt, found]
    exact if_pos rfl
  -- No route is asked for a head only.
  have notHead : route.method ≠ "HEAD" := by cases route <;> decide
  rw [respond]
  dsimp only
  rw [path, isMethod, Except.map, routed, location_answer]
  exact congrArg Except.ok (if_neg notHead)

/-- What is posted to a route is answered by it. -/
theorem respond_posting {route : Route} (post : route.method = "POST")
    (fields : List (String × Datum)) :
    respond settings (posting route fields) =
      .ok (answer settings (some (.record fields)) route) := by
  have method : Text.upperCase "POST" = "POST" := by decide +kernel
  exact respond_route (method.trans post.symm) _

/-- A body that gives an expression is read as it. -/
theorem expressionOf_of_lookup {fields : List (String × Datum)} {text : String}
    (given : fields.lookup "expression" = some (.text text)) (notEmpty : text ≠ "") :
    expressionOf (some (.record fields)) = .ok text := by
  simp [expressionOf, requiredField, given, Except.bind, Checked.located, notEmpty]

/-- A body that gives an expression of allowed length is answered by the command on it. -/
theorem onExpression_of_lookup {fields : List (String × Datum)} {text : String}
    (given : fields.lookup "expression" = some (.text text)) (notEmpty : text ≠ "")
    (short : (text.length : Int) ≤ settings.maxExpressionLength)
    (command : Settings → String → Response) :
    onExpression settings (some (.record fields)) command = command settings text := by
  have allowed : tooLong settings text = false := by
    rw [tooLong, decide_eq_false_iff_not]
    omega
  rw [onExpression, expressionOf_of_lookup given notEmpty]
  dsimp only
  rw [allowed]
  rfl

/-- A list of texts is read as it is. -/
theorem textsFrom_map_text (place : List Place) (index : Nat) (texts : List String) :
    textsFrom place index (texts.map .text) = .ok texts := by
  induction texts generalizing index with
  | nil => rfl
  | cons text texts ih =>
    rw [List.map_cons, textsFrom, ih]
    rfl

/-- A body that gives expressions is answered by the batch of them. -/
theorem answer_evaluateBatch {fields : List (String × Datum)} {texts : List String}
    (given : fields.lookup "expressions" = some (.list (texts.map .text)))
    (notEmpty : texts ≠ []) :
    answer settings (some (.record fields)) .evaluateBatch =
      evaluateBatch settings texts := by
  have expressions : expressionsOf (some (.record fields)) = .ok texts := by
    obtain ⟨text, more, rfl⟩ := List.exists_cons_of_ne_nil notEmpty
    simp only [expressionsOf, requiredField, given]
    exact textsFrom_map_text _ 0 (text :: more)
  rw [answer, expressions]

theorem evaluateBatch_of_short {texts : List String}
    (short : ∀ text ∈ texts, (text.length : Int) ≤ settings.maxExpressionLength) :
    evaluateBatch settings texts =
      good [
        ("ok", .int (Batch.succeeded (Batch.calculate settings.mode texts))),
        ("ko", .int (Batch.failed (Batch.calculate settings.mode texts))),
        ("total", .int (Batch.calculate settings.mode texts).length),
        ("items", Datum.ofList itemDatum (Batch.calculate settings.mode texts))] := by
  have allowed : texts.any (tooLong settings) = false := by
    rw [List.any_eq_false]
    intro text ht
    have fits := short text ht
    rw [tooLong, decide_eq_true_eq]
    omega
  rw [evaluateBatch, allowed]
  rfl

theorem finiteDatum_cases (x : Float) :
    (finiteDatum x = .null ∨ finiteDatum x = .real x) ∧
      (finiteDatum x = .null ↔ (Magnitude.ofFloat x).isFinite = false) := by
  by_cases finite : (Magnitude.ofFloat x).isFinite = true <;> simp [finiteDatum, finite]

/-! ## Statuses -/

/-- The routes that answer on a single expression. -/
def singleRoutes : List Route :=
  [.tokenize, .convert, .evaluate]

/-- The request posts an expression or a list of expressions to a route that takes it, or asks
whether the service is there. A single expression is not empty, and a list has at least one of them;
else they may be any texts of any length. -/
inductive Asks : Request → Prop
  | single {route : Route} {fields : List (String × Datum)} {text : String}
    (isSingle : route ∈ singleRoutes) (given : fields.lookup "expression" = some (.text text))
    (notEmpty : text ≠ "") : Asks (posting route fields)
  | batch {fields : List (String × Datum)} {texts : List String}
    (given : fields.lookup "expressions" = some (.list (texts.map .text)))
    (notEmpty : texts ≠ []) : Asks (posting .evaluateBatch fields)
  | health : Asks { method := "GET", address := Route.health.path }

/-- The statuses of a good answer and of one that refuses an expression. -/
def statuses : List Nat := [200, 422]

theorem post_of_mem_singleRoutes {route : Route} (isSingle : route ∈ singleRoutes) :
    route.method = "POST" := by
  simp only [singleRoutes, List.mem_cons, List.not_mem_nil, or_false] at isSingle
  obtain rfl | rfl | rfl := isSingle <;> rfl

/-- A body that gives an expression is refused for its length or answered by the command on it. -/
theorem status_onExpression {fields : List (String × Datum)} {text : String}
    (given : fields.lookup "expression" = some (.text text)) (notEmpty : text ≠ "")
    {command : Settings → String → Response} (kept : (command settings text).status ∈ statuses) :
    (onExpression settings (some (.record fields)) command).status ∈ statuses := by
  rw [onExpression, expressionOf_of_lookup given notEmpty]
  dsimp only
  split
  · exact List.mem_cons_of_mem _ (List.mem_singleton_self 422)
  · exact kept

/-- A route on a single expression answers with a result, or with the fault of the expression. -/
theorem status_answer {route : Route} (isSingle : route ∈ singleRoutes)
    {fields : List (String × Datum)} {text : String}
    (given : fields.lookup "expression" = some (.text text)) (notEmpty : text ≠ "") :
    (answer settings (some (.record fields)) route).status ∈ statuses := by
  simp only [singleRoutes, List.mem_cons, List.not_mem_nil, or_false] at isSingle
  obtain rfl | rfl | rfl := isSingle
  · refine status_onExpression given notEmpty ?_
    rw [tokenize]
    split <;> simp [statuses, good, badExpression, record]
  · exact status_onExpression given notEmpty List.mem_cons_self
  · refine status_onExpression given notEmpty ?_
    rw [evaluate]
    split <;> simp [statuses, good, badExpression, record]

/-- A batch has its answer, unless an expression in it is too long. -/
theorem status_evaluateBatch (settings : Settings) (texts : List String) :
    (evaluateBatch settings texts).status ∈ statuses := by
  rw [evaluateBatch]
  split <;> simp [statuses, good, badLength, refusal, record]

/-- What the service is there for never finds it at fault: the answer is good, or an expression is
refused. -/
theorem status_of_asks {request : Request} (asks : Asks request) :
    ∃ response, respond settings request = .ok response ∧ response.status ∈ statuses := by
  cases asks with
  | single isSingle given notEmpty =>
    exact ⟨_, respond_posting (post_of_mem_singleRoutes isSingle) _,
      status_answer isSingle given notEmpty⟩
  | @batch fields texts given notEmpty =>
    refine ⟨evaluateBatch settings texts, ?_, status_evaluateBatch settings texts⟩
    rw [respond_posting (by decide), answer_evaluateBatch given notEmpty]
  | health =>
    have method : Text.upperCase "GET" = "GET" := by decide +kernel
    exact ⟨health settings, respond_route method none, List.mem_cons_self⟩

end ReversePolish.Service
