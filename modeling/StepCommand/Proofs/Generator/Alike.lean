import StepCommand.Proofs.Generator.Run

namespace StepCommand

-- Files that answer a run in the same way.
structure Storage.Alike {σ τ : Type} [Storage σ] [Storage τ] (f : σ → τ) : Prop where
  readText : ∀ s path, Storage.readText (f s) path = Storage.readText s path
  exists? : ∀ s path, Storage.exists? (f s) path = Storage.exists? s path
  write : ∀ s path content,
    Storage.write (f s) path content = (Storage.write s path content).map id f

namespace Storage.Alike

theorem on_bind {σ τ α β : Type} {f : σ → τ} {x : RunOn σ α} {y : RunOn τ α} {k : α → RunOn σ β} {l : α → RunOn τ β}
    (hx : ∀ s, y.on (f s) = (x.on s).map id f) (hk : ∀ a s, (l a).on (f s) = ((k a).on s).map id f)
    (s : σ) : (y >>= l).on (f s) = ((x >>= k).on s).map id f := by
  rw [RunOn.bind_on, RunOn.bind_on, hx]
  rcases x.on s with ⟨failure | a, mid⟩
  · rfl
  · exact hk a mid

variable {σ τ : Type} [Storage σ] [Storage τ] {f : σ → τ}

theorem artifact_write (h : Alike f) (a : Artifact) (s : σ) :
    a.write (f s) = (a.write s).map id f := by
  unfold Artifact.write Artifact.isKept
  rw [h.exists?, h.write]
  split
  · rfl
  · rcases Storage.write s a.path a.content.toUTF8 with ⟨cause | _, after⟩ <;> rfl

theorem readAssembly (h : Alike f) (g : Generator) (path : String) (s : σ) :
    g.readAssembly path (f s) = g.readAssembly path s := by
  unfold Generator.readAssembly Generator.readStep
  rw [h.readText]

theorem emit (h : Alike f) (artifact : Except Failure Artifact) (r : Report) (s : σ) :
    (Generator.emit artifact r).on (f s) = ((Generator.emit artifact r).on s).map id f := by
  cases artifact with
  | error failure => rfl
  | ok a =>
      rw [Generator.emit_on, Generator.emit_on, h.artifact_write]
      rcases a.write s with ⟨failure | status, after⟩ <;> rfl

theorem emitAll (h : Alike f) (g : Generator) (a : Assembly) (files : List SourceFile) (r : Report)
    (s : σ) : (g.emitAll a files r).on (f s) = ((g.emitAll a files r).on s).map id f := by
  induction files generalizing r s with
  | nil => rfl
  | cons file rest ih => exact on_bind (h.emit _ r) ih s

theorem processFile (h : Alike f) (g : Generator) (path : String) (r : Report) (s : σ) :
    (g.processFile path r).on (f s) = ((g.processFile path r).on s).map id f := by
  rw [Generator.processFile_on, Generator.processFile_on, h.readAssembly]
  cases g.readAssembly path s with
  | error failure => rfl
  | ok a => exact on_bind (h.emitAll g a _ r) (fun _ _ => rfl) s

theorem processAll (h : Alike f) (g : Generator) (paths : List String) (r : Report) (s : σ) :
    (g.processAll paths r).on (f s) = ((g.processAll paths r).on s).map id f := by
  induction paths generalizing r s with
  | nil => rfl
  | cons path rest ih => exact on_bind (h.processFile g path r) ih s

theorem process (h : Alike f) (g : Generator) (paths : List String) (s : σ) :
    (g.process paths).on (f s) = ((g.process paths).on s).map id f :=
  on_bind (h.processAll g paths {}) (fun r => h.emit (g.registry r.steps) r) s

end Storage.Alike

end StepCommand
