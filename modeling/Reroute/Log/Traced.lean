import Reroute.Log.Event

set_option autoImplicit false

namespace Reroute

structure Traced (ε α : Type) where
  events : List Event
  result : Except ε α

namespace Traced

variable {ε α β : Type}

def log (e : Event) : Traced ε Unit :=
  ⟨[e], .ok ()⟩

def ofExcept (result : Except ε α) : Traced ε α :=
  ⟨[], result⟩

def fail (e : ε) : Traced ε α :=
  ⟨[], .error e⟩

instance : Monad (Traced ε) where
  pure a := ⟨[], .ok a⟩
  bind x f :=
    match x.result with
    | .error e => ⟨x.events, .error e⟩
    | .ok a => ⟨x.events ++ (f a).events, (f a).result⟩

@[simp] theorem result_pure (a : α) : (pure a : Traced ε α).result = .ok a :=
  rfl

@[simp] theorem result_log (e : Event) : (log e : Traced ε Unit).result = .ok () :=
  rfl

@[simp] theorem result_fail (e : ε) : (fail e : Traced ε α).result = .error e :=
  rfl

@[simp] theorem result_ofExcept (r : Except ε α) : (ofExcept r).result = r :=
  rfl

@[simp] theorem result_bind (x : Traced ε α) (f : α → Traced ε β) :
    (x >>= f).result = x.result >>= fun a => (f a).result := by
  cases h : x.result with
  | error e => simp only [bind, h, Except.bind]
  | ok a => simp only [bind, h, Except.bind]

end Traced

end Reroute
