import Reactor.Ascending

namespace Reactor

class Kind (α : Type) where
  all : List α
  id : α → String
  name : α → String

def Kind.ofId? {α : Type} [Kind α] (id : String) : Option α :=
  Kind.all.find? (Kind.id · == id)

inductive DatabaseKind
  | postgres
  | mySql
  | redis
  | mongo
  | cosmos
  deriving DecidableEq, Repr, Ord

instance : Kind DatabaseKind where
  all := [.postgres, .mySql, .redis, .mongo, .cosmos]
  id
    | .postgres => "postgres"
    | .mySql => "mysql"
    | .redis => "redis"
    | .mongo => "mongo"
    | .cosmos => "cosmos"
  name
    | .postgres => "PostgreSQL"
    | .mySql => "MySQL"
    | .redis => "Redis"
    | .mongo => "MongoDB"
    | .cosmos => "Cosmos DB"

inductive QueueKind
  | serviceBus
  | serviceBusJms
  deriving DecidableEq, Repr, Ord

instance : Kind QueueKind where
  all := [.serviceBus, .serviceBusJms]
  id
    | .serviceBus => "servicebus"
    | .serviceBusJms => "servicebus-jms"
  name
    | .serviceBus => "Service Bus"
    | .serviceBusJms => "Service Bus (JMS)"

inductive StreamKind
  | eventHubs
  deriving DecidableEq, Repr, Ord

instance : Kind StreamKind where
  all := [.eventHubs]
  id _ := "eventhubs"
  name _ := "Event Hubs"

inductive MetadataFlag
  | springCloudAzureStarter
  | jdbcPostgresqlStarter
  | jdbcMysqlStarter
  | eurekaServer
  | eurekaClient
  | configServer
  | configClient
  | springFrontend
  deriving DecidableEq, Repr, Ord

instance : Kind MetadataFlag where
  all :=
    [.springCloudAzureStarter, .jdbcPostgresqlStarter, .jdbcMysqlStarter, .eurekaServer,
      .eurekaClient, .configServer, .configClient, .springFrontend]
  id
    | .springCloudAzureStarter => "spring-cloud-azure-starter"
    | .jdbcPostgresqlStarter => "spring-cloud-azure-starter-jdbc-postgresql"
    | .jdbcMysqlStarter => "spring-cloud-azure-starter-jdbc-mysql"
    | .eurekaServer => "eureka-server"
    | .eurekaClient => "eureka-client"
    | .configServer => "config-server"
    | .configClient => "config-client"
    | .springFrontend => "spring-frontend"
  name
    | .springCloudAzureStarter => "Spring Cloud Azure starter"
    | .jdbcPostgresqlStarter => "Spring Cloud Azure JDBC PostgreSQL starter"
    | .jdbcMysqlStarter => "Spring Cloud Azure JDBC MySQL starter"
    | .eurekaServer => "Eureka server"
    | .eurekaClient => "Eureka client"
    | .configServer => "Spring Cloud Config server"
    | .configClient => "Spring Cloud Config client"
    | .springFrontend => "Frontend build plugin"

inductive Language
  | java
  deriving DecidableEq, Repr

instance : Kind Language where
  all := [.java]
  id _ := "java"
  name _ := "Java"

/-- What a project needs. The lists are ascending and without repetitions. -/
inductive Requirement
  | database (kind : DatabaseKind)
  | messageQueue (kind : QueueKind) (destinations : List String)
  | eventStream (kind : StreamKind) (names : List String) (usesAlternateProtocol : Bool)
  | objectStorage (containers : List String)
  deriving DecidableEq, Repr

namespace Requirement

def rank : Requirement → Nat
  | database .. => 0
  | messageQueue .. => 1
  | eventStream .. => 2
  | objectStorage .. => 3

/-- By sort of resource, then part by part; lists compare as words do. -/
def order : Requirement → Requirement → Ordering
  | database a, database b => compare a b
  | messageQueue a ds, messageQueue b es => (compare a b).then (compare ds es)
  | eventStream a ns x, eventStream b ms y =>
    ((compare a b).then (compare ns ms)).then (compare x y)
  | objectStorage cs, objectStorage ds => compare cs ds
  | a, b => compare a.rank b.rank

def listText (items : List String) : String := "[" ++ ", ".intercalate items ++ "]"

def text : Requirement → String
  | database kind => Kind.name kind
  | messageQueue kind [] => Kind.name kind
  | messageQueue kind destinations => s!"{Kind.name kind} {listText destinations}"
  | eventStream kind names usesAlternateProtocol =>
    s!"{Kind.name kind} {listText names}" ++ if usesAlternateProtocol then " (Kafka)" else ""
  | objectStorage containers => s!"Storage Account {listText containers}"

end Requirement

end Reactor
