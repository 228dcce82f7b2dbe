import FaultInjection.Config.Shape
import FaultInjection.Injection.Injector

namespace FaultInjection

structure CacheConfig where
  ttlSecs : Nat := Injector.defaultTtlSecs
  maxEntries : Nat := Injector.defaultCapacity

structure EngineConfig where
  expressionCache : CacheConfig := {}

namespace CacheConfig

open Shape

variable {τ : Type} [Source τ]

def read : Reader τ CacheConfig := fun d => do
  let ms ← record "CacheConfig"
    [optional "ttl_secs" (natural "u64"), optional "max_entries" (natural "usize")] d
  let default : CacheConfig := {}
  pure {
    ttlSecs := ← get ms "ttl_secs" (natural "u64") default.ttlSecs
    maxEntries := ← get ms "max_entries" (natural "usize") default.maxEntries }

def ttl (c : CacheConfig) : Nat :=
  c.ttlSecs * Cache.second

end CacheConfig

namespace EngineConfig

open Shape

variable {τ : Type} [Source τ]

def read : Reader τ EngineConfig := fun d => do
  let ms ← record "EngineConfig" [optional "expression_cache" CacheConfig.read] d
  pure ⟨← get ms "expression_cache" CacheConfig.read {}⟩

end EngineConfig

def Injector.ofConfig {σ : Type} (c : EngineConfig) (actions : ActionTable σ)
    (registry : Registry) (host : σ) : Injector σ :=
  Injector.new c.expressionCache.ttl c.expressionCache.maxEntries actions registry host

end FaultInjection
