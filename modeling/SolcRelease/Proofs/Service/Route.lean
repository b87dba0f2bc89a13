import SolcRelease.Proofs.Text.Parts
import SolcRelease.Service.Route

/-! The methods and paths of the routes to compilers and to inference. -/

namespace SolcRelease

namespace Route

variable {path text : Text} {route : Route}

/-- A path has a segment behind the two of the compilers if it ends in that one. -/
theorem splitOn_compilers :
    path.splitOn '/' = [[], "api", "compilers", text] ↔
      path = "/api/compilers/" ++ text ∧ .char '/' ∉ text := by
  have shape : ("/api/compilers/" : Text) ++ text =
      [] ++ .char '/' ::
        (("api" : Text) ++ .char '/' :: (("compilers" : Text) ++ .char '/' :: text)) := rfl
  constructor
  · intro parts
    -- Each segment ends at a slash, but for the last one.
    obtain ⟨-, ⟨-, none⟩ | ⟨behindRoot, rfl, second⟩⟩ := Text.splitOn_eq_cons_iff.mp parts
    · cases none
    obtain ⟨-, ⟨-, none⟩ | ⟨behindApi, rfl, third⟩⟩ := Text.splitOn_eq_cons_iff.mp second
    · cases none
    obtain ⟨-, ⟨-, none⟩ | ⟨behindCompilers, rfl, fourth⟩⟩ := Text.splitOn_eq_cons_iff.mp third
    · cases none
    obtain ⟨plain, ⟨rfl, -⟩ | ⟨_, -, more⟩⟩ := Text.splitOn_eq_cons_iff.mp fourth
    · exact ⟨shape.symm, plain⟩
    · exact absurd more (List.splitOn_ne_nil _ _)
  · rintro ⟨rfl, plain⟩
    rw [shape, Text.splitOn_append_mark (by decide), Text.splitOn_append_mark (by decide),
      Text.splitOn_append_mark (by decide), Text.splitOn_of_not_mem plain]

/-- A path has just the two segments of inference in one case. -/
theorem splitOn_infer : path.splitOn '/' = [[], "api", "infer"] ↔ path = "/api/infer" := by
  constructor
  · intro parts
    -- Joined again, the segments give the path.
    have joined : [.char '/'].intercalate (path.splitOn '/') = path := List.intercalate_splitOn _
    rw [parts] at joined
    exact joined.symm
  · rintro rfl
    decide

/-- The segments of the paths that may lead to a route. -/
def IsAt (segments : List Text) : Route → Prop
  | .health => segments = [[], "health"]
  | .version => segments = [[], "version"]
  | .latestCompiler => segments = [[], "api", "compilers", "latest"]
  | .compiler text => segments = [[], "api", "compilers", text] ∧ text ≠ [] ∧ text ≠ "latest"
  | .inference => segments = [[], "api", "infer"]
  | .file => ∃ segment rest, segments = [] :: "static" :: segment :: rest

/-- A path that leads to a route has the segments for it. -/
theorem isAt_of_ofPath? (found : ofPath? path = some route) : route.IsAt (path.splitOn '/') := by
  unfold ofPath? at found
  split at found
  · -- One segment leads to the health or to the version of the service.
    rename_i segment parts
    split at found
    · rename_i isHealth
      rw [isHealth] at parts
      cases found
      exact parts
    · split at found
      · rename_i isVersion
        rw [isVersion] at parts
        cases found
        exact parts
      · cases found
  · rename_i root segment rest parts
    split at found
    · rename_i isApi
      rw [isApi] at parts
      split at found
      · -- Behind that of the interface, one segment can only be the one of inference.
        split at found
        · rename_i isInfer
          rw [isInfer] at parts
          cases found
          exact parts
        · cases found
      · -- Two segments lead to a compiler, of which the latest has a route of its own.
        rename_i text
        split at found
        · cases found
        · rename_i good
          rw [not_or, Decidable.not_not, List.isEmpty_iff] at good
          obtain ⟨isCompilers, nonempty⟩ := good
          rw [isCompilers] at parts
          split at found
          · rename_i isLatest
            rw [isLatest] at parts
            cases found
            exact parts
          · rename_i notLatest
            cases found
            exact ⟨parts, nonempty, notLatest⟩
      · cases found
    · split at found
      · -- Anything else begins with the segment of the files.
        rename_i isStatic
        simp only [Bool.and_eq_true, decide_eq_true_eq] at isStatic
        rw [isStatic.1.1] at parts
        cases found
        exact ⟨segment, rest, parts⟩
      · cases found
  · cases found

/-- One path leads to the latest compiler. -/
theorem ofPath?_eq_latestCompiler_iff :
    ofPath? path = some .latestCompiler ↔ path = "/api/compilers/latest" := by
  constructor
  · intro found
    exact (splitOn_compilers.mp (isAt_of_ofPath? found)).1
  · rintro rfl
    decide

/-- The paths with any other one segment behind those of the compilers lead to its compiler. -/
theorem ofPath?_eq_compiler_iff :
    ofPath? path = some (.compiler text) ↔
      path = "/api/compilers/" ++ text ∧ text ≠ [] ∧ .char '/' ∉ text ∧ text ≠ "latest" := by
  constructor
  · intro found
    obtain ⟨parts, nonempty, notLatest⟩ := isAt_of_ofPath? found
    obtain ⟨isPath, plain⟩ := splitOn_compilers.mp parts
    exact ⟨isPath, nonempty, plain, notLatest⟩
  · intro ⟨isPath, nonempty, plain, notLatest⟩
    have parts := splitOn_compilers.mpr ⟨isPath, plain⟩
    -- The last segment is neither empty nor the one of the latest compiler.
    simp [ofPath?, parts, nonempty, notLatest]

/-- One path leads to inference. -/
theorem ofPath?_eq_inference_iff : ofPath? path = some .inference ↔ path = "/api/infer" := by
  constructor
  · intro found
    exact splitOn_infer.mp (isAt_of_ofPath? found)
  · rintro rfl
    decide

end Route

namespace Dispatch

variable {method path : Text} {route : Route}

/-- A route takes what has its path and one of its methods, unless it only asks for those. -/
theorem ofRequest_eq_taken_iff :
    ofRequest method path = .taken route ↔
      Route.ofPath? (rooted path) = some route ∧ method ∈ route.methods ∧ method ≠ "OPTIONS" := by
  simp only [ofRequest]
  constructor
  · intro taken
    split at taken
    · rename_i found
      obtain ⟨leads, takes⟩ := Option.filter_eq_some_iff.mp found
      split at taken
      · cases taken
      · rename_i other
        cases taken
        exact ⟨leads, by simpa using takes, other⟩
    · cases taken
    · cases taken
    · cases taken
  · intro ⟨leads, takes, other⟩
    have found : (Route.ofPath? (rooted path)).filter (fun route => route.methods.contains method)
        = some route := Option.filter_eq_some_iff.mpr ⟨leads, by simpa using takes⟩
    simp only [found, if_neg other]

/-- Every route but that of inference takes the requests that read its path. -/
theorem ofRequest_eq_taken_iff_reads (other : route ≠ .inference) :
    ofRequest method path = .taken route ↔
      (method = "GET" ∨ method = "HEAD") ∧ Route.ofPath? (rooted path) = some route := by
  have methods : route.methods = (["GET", "HEAD", "OPTIONS"] : List Text) := by
    cases route with
    | inference => exact absurd rfl other
    | _ => rfl
  rw [ofRequest_eq_taken_iff, methods]
  constructor
  · intro ⟨leads, takes, notAsking⟩
    simp only [List.mem_cons, List.not_mem_nil, or_false] at takes
    rcases takes with get | head | options
    · exact ⟨Or.inl get, leads⟩
    · exact ⟨Or.inr head, leads⟩
    · exact absurd options notAsking
  · rintro ⟨rfl | rfl, leads⟩
    · exact ⟨leads, by decide, by decide⟩
    · exact ⟨leads, by decide, by decide⟩

/-- Inference takes the requests that post to its path. -/
theorem ofRequest_eq_taken_inference_iff :
    ofRequest method path = .taken .inference ↔ method = "POST" ∧ rooted path = "/api/infer" := by
  rw [ofRequest_eq_taken_iff, Route.ofPath?_eq_inference_iff]
  constructor
  · intro ⟨isPath, takes, notAsking⟩
    simp only [Route.methods, List.mem_cons, List.not_mem_nil, or_false] at takes
    exact ⟨takes.resolve_left notAsking, isPath⟩
  · rintro ⟨rfl, isPath⟩
    exact ⟨isPath, by decide, by decide⟩

end Dispatch

end SolcRelease
