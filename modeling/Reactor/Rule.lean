import Reactor.Coordinate
import Reactor.Resource

namespace Reactor

/-- Where the destinations of bindings are configured. With a checkpoint key, whose value names a
container, a channel that takes input also needs an object storage. -/
structure BindingSource where
  space : String
  checkpointKey : Option String
  deriving DecidableEq, Repr

inductive RequirementTemplate
  | database (kind : DatabaseKind)
  | messageQueue (kind : QueueKind) (bindings : Option BindingSource)
  | eventStream (kind : StreamKind) (usesAlternateProtocol : Bool) (bindings : BindingSource)
  deriving DecidableEq, Repr

structure ResourceRule where
  name : String
  alternatives : List ArtifactKey
  template : RequirementTemplate
  deriving DecidableEq, Repr

inductive MatchTarget
  | dependency
  | buildPlugin
  deriving DecidableEq, Repr

structure MetadataRule where
  alternatives : List ArtifactKey
  target : MatchTarget
  flag : MetadataFlag
  deriving DecidableEq, Repr

def ResourceRule.matched? (rule : ResourceRule) (dependencies : List ResolvedDependency) :
    Option ResolvedDependency :=
  rule.alternatives.findSome? fun key ↦ dependencies.find? (·.key == key)

structure RuleTable where
  resources : List ResourceRule
  metadata : List MetadataRule
  deriving DecidableEq, Repr

namespace RuleTable

def bindingSpace : String := "spring.cloud.stream"

def checkpointContainerKey : String :=
  "spring.cloud.azure.eventhubs.processor.checkpoint-store.container-name"

def boot (artifact : String) : ArtifactKey := ⟨"org.springframework.boot", artifact⟩

def cloud (artifact : String) : ArtifactKey := ⟨"org.springframework.cloud", artifact⟩

def azure (artifact : String) : ArtifactKey := ⟨"com.azure.spring", artifact⟩

def standardResources : List ResourceRule :=
  [⟨"postgresql", [⟨"org.postgresql", "postgresql"⟩], .database .postgres⟩,
    ⟨"mysql", [⟨"com.mysql", "mysql-connector-j"⟩], .database .mySql⟩,
    ⟨"redis", [boot "spring-boot-starter-data-redis",
      boot "spring-boot-starter-data-redis-reactive"], .database .redis⟩,
    ⟨"mongodb", [boot "spring-boot-starter-data-mongodb",
      boot "spring-boot-starter-data-mongodb-reactive"], .database .mongo⟩,
    ⟨"cosmos", [azure "spring-cloud-azure-starter-data-cosmos"], .database .cosmos⟩,
    ⟨"service-bus-jms", [azure "spring-cloud-azure-starter-servicebus-jms"],
      .messageQueue .serviceBusJms none⟩,
    ⟨"service-bus-binder", [azure "spring-cloud-azure-stream-binder-servicebus"],
      .messageQueue .serviceBus (some ⟨bindingSpace, none⟩)⟩,
    ⟨"event-hubs-binder", [azure "spring-cloud-azure-stream-binder-eventhubs"],
      .eventStream .eventHubs false ⟨bindingSpace, some checkpointContainerKey⟩⟩,
    ⟨"kafka-binder", [cloud "spring-cloud-starter-stream-kafka"],
      .eventStream .eventHubs true ⟨bindingSpace, none⟩⟩]

def standardMetadata : List MetadataRule :=
  [⟨[azure "spring-cloud-azure-starter"], .dependency, .springCloudAzureStarter⟩,
    ⟨[azure "spring-cloud-azure-starter-jdbc-postgresql"], .dependency, .jdbcPostgresqlStarter⟩,
    ⟨[azure "spring-cloud-azure-starter-jdbc-mysql"], .dependency, .jdbcMysqlStarter⟩,
    ⟨[cloud "spring-cloud-starter-netflix-eureka-server"], .dependency, .eurekaServer⟩,
    ⟨[cloud "spring-cloud-starter-netflix-eureka-client"], .dependency, .eurekaClient⟩,
    ⟨[cloud "spring-cloud-config-server"], .dependency, .configServer⟩,
    ⟨[cloud "spring-cloud-starter-config"], .dependency, .configClient⟩,
    ⟨[⟨"com.github.eirslett", "frontend-maven-plugin"⟩], .buildPlugin, .springFrontend⟩]

def standard : RuleTable := ⟨standardResources, standardMetadata⟩

end RuleTable

end Reactor
