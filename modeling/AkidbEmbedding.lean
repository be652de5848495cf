import AkidbEmbedding.Python
import AkidbEmbedding.Pooling
import AkidbEmbedding.Mlx.Inference
import AkidbEmbedding.Mlx.Normalised
import AkidbEmbedding.Mlx.Averages
import AkidbEmbedding.Cache.Loader
import AkidbEmbedding.Cache.Processes
import AkidbEmbedding.Cache.Disk
import AkidbEmbedding.Mlx.Service
import AkidbEmbedding.Mlx.Config
import AkidbEmbedding.Server.Protocol
import AkidbEmbedding.Server.Answers
import AkidbEmbedding.Server.Registry
import AkidbEmbedding.Server.Isolation
import AkidbEmbedding.Server.Reachable
import AkidbEmbedding.Dimensions
import AkidbEmbedding.Scripts.LastToken
import AkidbEmbedding.Sdk.Client
import AkidbEmbedding.Scripts.Importer
import AkidbEmbedding.Scripts.Loaders
