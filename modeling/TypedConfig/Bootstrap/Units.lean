import TypedConfig.Bootstrap.Properties
import TypedConfig.Unit.Run
import TypedConfig.Value.Access

/-!
# The units of the bootstrap

A run configures a banner, a database, a cache, a server and the export of metrics. Each unit states
what it is bound from, when it is needed and where it stands in the order; `run` puts the
properties and the units together.
-/

namespace TypedConfig.Bootstrap

/-! ### What the units are bound from -/

/-- The type of texts. -/
def textType : Schema := .scalar "String" .string

/-- The type of lists of texts. -/
def textsType : Schema := .sequence "List String" textType

/-- A field that is bound from a tag under rules. -/
def taggedField (name tag : Text) (rules : List Text) (content : Schema) : RecordField Schema :=
  ⟨name, some (.tagged tag), rules.map fun rule => ⟨"expr", rule⟩, content, none⟩

/-- The settings of the server. -/
def serverType : Schema :=
  .record "ServerConfig"
    [taggedField "host" "$\x7bhost:=127.0.0.1\x7d" [] textType,
      taggedField "port" "$\x7bport:=8080\x7d" ["$ > 0"] (.scalar "u16" (.unsigned 16)),
      taggedField "timeout" "$\x7btimeout:=30s\x7d" [] .duration,
      taggedField "allowed_origins" "$\x7ballowed-origins:=\x7d" [] textsType]

/-- The settings of a pool of connections. -/
def poolType : Schema :=
  .record "PoolConfig"
    [taggedField "size" "$\x7bsize:=4\x7d" ["$ > 0 && $ <= 128"] (.scalar "u32" (.unsigned 32))]

/-- The settings of the database. -/
def databaseType : Schema :=
  .record "DatabaseConfig"
    [taggedField "url" "$\x7burl\x7d" [] textType, ⟨"pool", some .nested, [], poolType, none⟩]

/-- The settings of the cache. -/
def cacheType : Schema :=
  .record "CacheConfig"
    [taggedField "ttl" "$\x7bttl:=1m\x7d" [] .duration,
      taggedField "regions" "$\x7bregions:=\x7d" []
        (.mapping "Map String u32" .text (.scalar "u32" (.unsigned 32)))]

/-- A type as a parameter of a unit. -/
def parameter (schema : Schema) : Described Value :=
  Schema.described [] schema.shape.typeName schema

/-! ### The units -/

/-- The database needs an address with a scheme. -/
def configureDatabase : List Value → Except Text Unit
  | [settings] =>
    let url := ((settings.member? "url").bind Value.string?).getD []
    if url.has "://" then .ok () else .error ("database url `" ++ url ++ "` has no scheme")
  | _ => .ok ()

/-- A unit whose function has nothing to refuse. -/
def plainUnit (name : Text) (tags : List Text) (parameters : List Schema) :
    Except UnitError ConfigUnit :=
  ConfigUnit.new? name tags (parameters.map parameter) fun _ => .ok ()

/-- The units of a run. -/
def units : Except UnitError UnitGraph := do
  let banner ← plainUnit "banner"
    ["$\x7bapp.name:=application\x7d", "$\x7bapp.profiles.active:=\x7d"] [textType, textsType]
  let graph ← UnitGraph.empty.register banner
  let database ← ConfigUnit.new? "database" ["$\x7bdb\x7d"] [parameter databaseType]
    configureDatabase
  let graph ← graph.register
    ((database.runsAfter ["banner"]).conditionOn (.property "db.url"))
  let cache ← plainUnit "cache" ["$\x7bcache\x7d"] [cacheType]
  let graph ← graph.register
    ((cache.runsBefore ["server"]).conditionOn (.propertyValue "cache.enabled" "true"))
  let server ← plainUnit "server" ["$\x7bserver\x7d"] [serverType]
  let graph ← graph.register (server.runsAfter ["database"])
  let metrics ← plainUnit "metrics" [] []
  let metrics := (metrics.runsAfter ["server"]).conditionOn (.profile "prod")
  graph.register
    ((metrics.select .or).conditionOn (.propertyValue "metrics.port" "expr:$ > 1024"))

/-! ### A run -/

/-- What a run comes to: the properties, the order of the units, and how their run ended. -/
structure Outcome where
  properties : Store
  order : List Text
  result : Except BootstrapError RunReport

/-- A run with options, environment variables and files. -/
def run (options : Options) (assignments : List (Text × Text)) (files : Files) :
    Except BootstrapError Outcome := do
  let binder := Binder.standard
  let properties ← properties? binder options assignments files
  let graph ← units.mapError .unit
  let order ← graph.sortedNames.mapError .unit
  let (_, result) := graph.run binder (context options properties)
  pure ⟨properties, order, result.mapError .unit⟩

end TypedConfig.Bootstrap
