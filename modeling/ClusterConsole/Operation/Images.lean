import ClusterConsole.Operation.Basic

/-!
# Building and loading images

The images of a batch are built and loaded one after the other.  Where a build
fails the batch goes on with the next service.  Where a load fails it stops,
since no later load could succeed either, and the rest of the batch is skipped.
-/

namespace ClusterConsole

namespace Service

def buildArgumentList (service : Service) (image : String) : List String :=
  let context := service.buildContext
  ["build", "-t", image, "-f", context.dockerfile.text] ++
    (context.arguments.flatMap fun entry =>
      ["--build-arg", entry.1 ++ "=" ++ entry.2]) ++
    [context.directory.text]

def result (service : Service) (registry : String) (outcome : ImageOutcome) :
    ImageResult :=
  ⟨service.name, service.imageTag registry, outcome⟩

end Service

namespace Operation

def buildImage (config : Config) (service : Service) : Operation Unit :=
  let image := service.imageTag config.registry
  step .buildImage image (config.buildCommand (service.buildArgumentList image))

def loadImage (config : Config) (image : String) : Operation Unit :=
  step .loadImage image
    (config.clusterCommand ["load", "docker-image", image, "--name",
        config.cluster.name])

/-- Builds and loads the images of services, after a report on the services
before them. -/
def continueBatch (config : Config) (report : ImageReport) :
    List Service → Operation ImageReport
  | [] => return report
  | service :: rest => do
    match ← result (buildImage config service) with
    | .error failure =>
      let built :=
        service.result config.registry (.buildFailed failure.exitCode?)
      continueBatch config (report.push built) rest
    | .ok () =>
      match ← result (loadImage config (service.imageTag config.registry)) with
      | .error failure =>
        let loaded :=
          service.result config.registry (.loadFailed failure.exitCode?)
        let skipped :=
          rest.map fun service => service.result config.registry .skipped
        throw (.imageNotLoaded service.name (report.push loaded ++ ⟨skipped⟩)
            failure)
      | .ok () =>
        let ready := service.result config.registry .builtAndLoaded
        continueBatch config (report.push ready) rest

def buildAndLoad (config : Config) (services : List Service) :
    Operation ImageReport :=
  continueBatch config .empty services

def buildAll (config : Config) : Operation ImageReport :=
  buildAndLoad config config.roster.services

end Operation

end ClusterConsole
